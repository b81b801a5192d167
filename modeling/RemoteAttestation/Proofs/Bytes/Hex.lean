import RemoteAttestation.Bytes.Hex
import RemoteAttestation.Proofs.Bytes.Text

/-!
# Hexadecimal Round Trip

What is written in hexadecimal is read back. Reading works on the UTF-8 form of a text, and in
that form a digit is a single octet.

## Main results

* `Hex.decode_encode`: the octets of their hexadecimal form.
-/

namespace RemoteAttestation.Hex

/-- A digit is a single octet in UTF-8. -/
theorem utf8EncodeChar_digit {n : Nat} (h : n < 16) :
    String.utf8EncodeChar (digit n) = [UInt8.ofNat (digit n).toNat] := by
  revert n
  decide

/-- Decimal digits are below the letters. -/
theorem digit_code {n : Nat} (h : n < 16) :
    let code := (UInt8.ofNat (digit n).toNat).toNat
    (48 ≤ code ∧ code ≤ 57) ∧ code - 48 = n ∨
      ¬ (48 ≤ code ∧ code ≤ 57) ∧ (97 ≤ code ∧ code ≤ 102) ∧ code - 87 = n := by
  revert n
  decide

/-- The octet of a digit is read as the number of the digit. -/
theorem digitValue_digit {n : Nat} (h : n < 16) (position : Nat) :
    digitValue position (UInt8.ofNat (digit n).toNat) = .ok n := by
  rcases digit_code h with ⟨hDecimal, hValue⟩ | ⟨hNotDecimal, hLetter, hValue⟩
  · rw [digitValue, if_pos hDecimal, hValue]
  · rw [digitValue, if_neg hNotDecimal, if_pos hLetter, hValue]

/-- The octets of the digits of an octet. -/
theorem utf8_octetDigits (octet : UInt8) :
    (octetDigits octet).flatMap String.utf8EncodeChar =
      [UInt8.ofNat (digit (octet.toNat / 16)).toNat,
        UInt8.ofNat (digit (octet.toNat % 16)).toNat] := by
  have hHigh : octet.toNat / 16 < 16 := Nat.div_lt_of_lt_mul octet.toNat_lt
  have hLow : octet.toNat % 16 < 16 := Nat.mod_lt _ (by decide)
  rw [octetDigits, List.flatMap_cons, List.flatMap_singleton, utf8EncodeChar_digit hHigh,
    utf8EncodeChar_digit hLow]
  rfl

/-- An octet is written as two digits, that of its upper half first. -/
theorem ofText_encode_cons (octet : UInt8) (rest : Bytes) :
    Bytes.ofText (encode (octet :: rest)) =
      UInt8.ofNat (digit (octet.toNat / 16)).toNat ::
        UInt8.ofNat (digit (octet.toNat % 16)).toNat :: Bytes.ofText (encode rest) := by
  rw [encode, encode, Bytes.ofText_ofList, Bytes.ofText_ofList, digits, digits, List.flatMap_cons,
    List.flatMap_append, utf8_octetDigits]
  rfl

/-- There are twice as many digits as octets. -/
theorem length_ofText_encode (b : Bytes) : (Bytes.ofText (encode b)).length = 2 * b.length := by
  induction b with
  | nil => rfl
  | cons octet rest ih =>
      rw [ofText_encode_cons, List.length_cons, List.length_cons, List.length_cons, ih]
      omega

/-- Pairs of digits are decoded to the octets that they write, at any position. -/
theorem decodePairs_encode (b : Bytes) (position : Nat) :
    decodePairs position (Bytes.ofText (encode b)) = .ok b := by
  induction b generalizing position with
  | nil => rfl
  | cons octet rest ih =>
      have hHigh : octet.toNat / 16 < 16 := Nat.div_lt_of_lt_mul octet.toNat_lt
      have hLow : octet.toNat % 16 < 16 := Nat.mod_lt _ (by decide)
      rw [ofText_encode_cons, decodePairs, digitValue_digit hHigh, digitValue_digit hLow, ih]
      change Except.ok (UInt8.ofNat (16 * (octet.toNat / 16) + octet.toNat % 16) :: rest) = _
      rw [Nat.div_add_mod, UInt8.ofNat_toNat]

/-- **What is written in hexadecimal is read back.** -/
@[simp] theorem decode_encode (b : Bytes) : decode (encode b) = .ok b := by
  have hEven : ¬ (Bytes.ofText (encode b)).length % 2 = 1 := by
    rw [length_ofText_encode]
    omega
  rw [decode, if_neg hEven, decodePairs_encode]

/-- Two strings are written as **different texts**. -/
theorem encode_inj {a b : Bytes} : encode a = encode b ↔ a = b := by
  constructor
  · intro h
    have hDecode := congrArg decode h
    rw [decode_encode, decode_encode] at hDecode
    exact Except.ok.inj hDecode
  · rintro rfl
    rfl

end RemoteAttestation.Hex
