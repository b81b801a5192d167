import RemoteAttestation.Arithmetic
import RemoteAttestation.Proofs.Bytes.Integer

/-!
# Integers in Another Width

An integer keeps its number when it is moved to another width: the zeros in front of it count
for nothing, so it fits in a width when the number does, and what is made of it depends on the
number alone. Its octets without the zeros in front are as many as the number needs.

## Main results

* `Bytes.length_significant_le_iff`: which numbers fit in a width.
* `Bytes.length_significant`: how many octets are left without the zeros in front.
* `Bytes.fit?_eq`: the string of another width.
-/

namespace RemoteAttestation

/-! ### The octets that a number needs -/

namespace Arithmetic

/-- A number has at most so many bits just when it is below that power of two. -/
theorem bitLength_le_iff {n bits : Nat} : bitLength n ≤ bits ↔ n < 2 ^ bits := by
  rw [bitLength]
  split
  · rename_i hZero
    exact iff_of_true (Nat.zero_le bits) (hZero ▸ Nat.two_pow_pos bits)
  · rename_i hNe
    rw [Nat.add_one_le_iff, Nat.log2_lt hNe]

/-- A number has at most so many octets just when it is below that power of 256. -/
theorem octetLength_le_iff {n width : Nat} : octetLength n ≤ width ↔ n < 256 ^ width := by
  have hPow : 256 ^ width = 2 ^ (8 * width) := by rw [Nat.pow_mul]
  rw [hPow, ← bitLength_le_iff, octetLength, octetsFor]
  omega

end Arithmetic

/-! ### Zeros in front -/

namespace Bytes

/-- Octets behind others shift the number of those in front. -/
theorem value_append (a b : Bytes) : value (a ++ b) = value a * 256 ^ b.length + value b := by
  rw [value, List.foldl_append, foldl_value]
  rfl

/-- Zeros are the number zero. -/
theorem value_replicate_zero (n : Nat) : value (List.replicate n 0) = 0 := by
  induction n with
  | zero => rfl
  | succ n ih => rw [List.replicate_succ, value_cons, ih, UInt8.toNat_zero, Nat.zero_mul]

/-- A zero in front is not significant. -/
theorem significant_zero_cons (rest : Bytes) : significant (0 :: rest) = significant rest := rfl

/-- An octet that is not zero is significant, with everything behind it. -/
theorem significant_cons_of_ne {octet : UInt8} (h : octet ≠ 0) (rest : Bytes) :
    significant (octet :: rest) = octet :: rest := by
  rw [significant, List.dropWhile_cons_of_neg (by simpa using h)]

/-- The zeros in front **count for nothing**. -/
theorem value_significant (b : Bytes) : value b.significant = value b := by
  induction b with
  | nil => rfl
  | cons octet rest ih =>
      by_cases hZero : octet = 0
      · rw [hZero, significant_zero_cons, ih, value_cons, UInt8.toNat_zero, Nat.zero_mul,
          Nat.zero_add]
      · rw [significant_cons_of_ne hZero]

/-- **Which numbers fit in a width**: those of strings that are short enough without the zeros
in front. -/
theorem length_significant_le_iff {b : Bytes} {width : Nat} :
    b.significant.length ≤ width ↔ b.value < 256 ^ width := by
  induction b with
  | nil => exact iff_of_true (Nat.zero_le width) (Nat.pow_pos (by decide))
  | cons octet rest ih =>
      by_cases hZero : octet = 0
      · rw [hZero, significant_zero_cons, ih, value_cons, UInt8.toNat_zero, Nat.zero_mul,
          Nat.zero_add]
      · rw [significant_cons_of_ne hZero]
        constructor
        · intro hLength
          exact Nat.lt_of_lt_of_le (value_lt _) (Nat.pow_le_pow_right (by decide) hLength)
        · intro hLt
          have hPos : 0 < octet.toNat :=
            Nat.pos_of_ne_zero fun h => hZero (UInt8.toNat_inj.mp h)
          have hLe : 256 ^ rest.length ≤ value (octet :: rest) := by
            rw [value_cons]
            exact Nat.le_add_right_of_le (Nat.le_mul_of_pos_left _ hPos)
          exact (Nat.pow_lt_pow_iff_right (by decide)).mp (Nat.lt_of_le_of_lt hLe hLt)

/-- Without the zeros in front there are as many octets as **the number needs**. -/
theorem length_significant (b : Bytes) :
    b.significant.length = Arithmetic.octetLength b.value :=
  Nat.le_antisymm (length_significant_le_iff.mpr (Arithmetic.octetLength_le_iff.mp (Nat.le_refl _)))
    (Arithmetic.octetLength_le_iff.mpr (length_significant_le_iff.mp (Nat.le_refl _)))

/-! ### Another width -/

/-- The **last octets** of a number are the number in a smaller width. -/
theorem drop_ofNat {width size : Nat} (h : width ≤ size) (n : Nat) :
    (ofNat size n).drop (size - width) = ofNat width n := by
  obtain ⟨extra, rfl⟩ := Nat.exists_eq_add_of_le' h
  rw [Nat.add_sub_cancel]
  clear h
  induction extra with
  | zero => rw [Nat.zero_add, List.drop_zero]
  | succ extra ih => rw [Nat.succ_add, ofNat, List.drop_succ_cons, ih]

/-- **The string of another width** is there when the number fits, and it is the number in that
width. -/
theorem fit?_eq (width : Nat) (b : Bytes) :
    fit? width b = if b.value < 256 ^ width then some (ofNat width b.value) else none := by
  simp only [fit?, length_significant_le_iff]
  split
  · rename_i hLt
    have hLength := length_significant_le_iff.mpr hLt
    refine congrArg some (value_inj ?_ ?_)
    · rw [List.length_append, List.length_replicate, length_ofNat, Nat.sub_add_cancel hLength]
    · rw [value_append, value_replicate_zero, Nat.zero_mul, Nat.zero_add, value_significant,
        value_ofNat_of_lt hLt]
  · rfl

end Bytes

end RemoteAttestation
