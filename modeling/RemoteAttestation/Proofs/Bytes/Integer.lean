import Mathlib.Tactic.Ring
import RemoteAttestation.Bytes.Basic

/-!
# Octet Strings as Numbers

A number below `256 ^ width` is written in `width` octets in exactly one way. The string is
read from the front, so the induction peels off the most significant octet, which counts
`256 ^ n` when `n` octets follow it.

## Main results

* `Bytes.value_ofNat`: reading a written number.
* `Bytes.ofNat_value`: writing a read number, in the width that it had.
-/

namespace RemoteAttestation.Bytes

/-- Octets that were read before count above all that follow. -/
theorem foldl_value (b : Bytes) (total : Nat) :
    b.foldl (fun total octet => 256 * total + octet.toNat) total =
      total * 256 ^ b.length + value b := by
  induction b generalizing total with
  | nil => simp [value]
  | cons octet rest ih =>
      rw [value, List.foldl_cons, List.foldl_cons, ih, ih, List.length_cons, Nat.pow_succ]
      ring

/-- The first octet counts as many times as there are values for the others. -/
theorem value_cons (octet : UInt8) (rest : Bytes) :
    value (octet :: rest) = octet.toNat * 256 ^ rest.length + value rest := by
  rw [value, List.foldl_cons, foldl_value, Nat.mul_zero, Nat.zero_add]

/-- A number in `n` octets is below `256 ^ n`. -/
theorem value_lt (b : Bytes) : value b < 256 ^ b.length := by
  induction b with
  | nil => simp [value]
  | cons octet rest ih =>
      rw [value_cons, List.length_cons, Nat.pow_succ]
      have hOctet : octet.toNat + 1 ≤ 256 := octet.toNat_lt
      calc octet.toNat * 256 ^ rest.length + value rest
          < octet.toNat * 256 ^ rest.length + 256 ^ rest.length := by omega
        _ = (octet.toNat + 1) * 256 ^ rest.length := by ring
        _ ≤ 256 * 256 ^ rest.length := Nat.mul_le_mul_right _ hOctet
        _ = 256 ^ rest.length * 256 := Nat.mul_comm _ _

/-- Strings of one length that denote the same number are the same. -/
theorem value_inj {a b : Bytes} (hLength : a.length = b.length) (hValue : value a = value b) :
    a = b := by
  induction a generalizing b with
  | nil => exact (List.length_eq_zero_iff.mp hLength.symm).symm
  | cons x a ih =>
      cases b with
      | nil => cases hLength
      | cons y b =>
          have hRest : a.length = b.length := Nat.succ.inj hLength
          have hA := value_lt a
          have hB := value_lt b
          rw [value_cons, value_cons, hRest] at hValue
          rw [hRest] at hA
          have hHead : x.toNat = y.toNat := by
            have := congrArg (· / 256 ^ b.length) hValue
            simpa [Nat.mul_add_div, Nat.mul_comm _ (256 ^ b.length), Nat.div_eq_of_lt hA,
              Nat.div_eq_of_lt hB] using this
          rw [UInt8.toNat_inj.mp hHead, ih hRest (by rw [hHead] at hValue; omega)]

/-- A shift by whole octets is a division. -/
theorem shiftRight_octets (n width : Nat) : n >>> (8 * width) = n / 256 ^ width := by
  rw [Nat.shiftRight_eq_div_pow, Nat.pow_mul]

/-- **Reading a written number** gives the number, modulo what fits in the width. -/
theorem value_ofNat (width n : Nat) : value (ofNat width n) = n % 256 ^ width := by
  induction width with
  | zero => simp [ofNat, value, Nat.mod_one]
  | succ width ih =>
      rw [ofNat, shiftRight_octets, value_cons, length_ofNat, ih, UInt8.toNat_ofNat',
        Nat.mod_pow_succ (b := 256), Nat.add_comm, Nat.mul_comm]

/-- A number that fits into its octets is their value. -/
theorem value_ofNat_of_lt {width n : Nat} (h : n < 256 ^ width) : value (ofNat width n) = n := by
  rw [value_ofNat, Nat.mod_eq_of_lt h]

/-- Two numbers that fit in a width are written there as **different strings**. -/
theorem ofNat_inj {width m n : Nat} (hm : m < 256 ^ width) (hn : n < 256 ^ width) :
    ofNat width m = ofNat width n ↔ m = n := by
  constructor
  · intro h
    rw [← value_ofNat_of_lt hm, h, value_ofNat_of_lt hn]
  · rintro rfl
    rfl

/-- **Writing a read number** in the width that it had gives the string. -/
theorem ofNat_value (b : Bytes) : ofNat b.length (value b) = b :=
  value_inj (length_ofNat _ _) (by rw [value_ofNat, Nat.mod_eq_of_lt (value_lt b)])

end RemoteAttestation.Bytes
