import RemoteAttestation.Bytes.Basic
import RemoteAttestation.Text.Quoted

/-!
# Hexadecimal Text

Octet strings are exchanged as text with two hexadecimal digits to the octet. Writing uses
lower-case digits; reading takes either case and nothing else. A text of odd length is refused
before any of its digits is looked at, otherwise the first character that is not a digit is
named. Lengths and positions count the octets of the text's UTF-8 form.

## Main definitions

* `Hex.encode`, `Hex.encodeUpper`: the text of an octet string in lower-case and upper-case digits.
* `Hex.decode`: the octet string of a text.
-/

namespace RemoteAttestation

/-- Why a text is not the hexadecimal form of an octet string. -/
inductive HexFault where
  /-- The text has an odd number of octets. -/
  | oddLength
  /-- The octet at this position is not a digit. -/
  | notADigit (octet : UInt8) (position : Nat)
  deriving Repr, DecidableEq

namespace HexFault

/-- The wording of a fault. An octet is shown as the character with its number. -/
def message : HexFault → String
  | oddLength => "Odd number of digits"
  | notADigit octet position =>
    s!"Invalid character {Quoted.character (Char.ofNat octet.toNat)} at position {position}"

end HexFault

namespace Hex

/-- The lower-case digit of a number below sixteen. -/
def digit (n : Nat) : Char :=
  if n < 10 then Char.ofNat (48 + n) else Char.ofNat (87 + n)

/-- The two digits of an octet. -/
def octetDigits (octet : UInt8) : List Char :=
  [digit (octet.toNat / 16), digit (octet.toNat % 16)]

/-- The digits of an octet string. -/
def digits (b : Bytes) : List Char :=
  b.flatMap octetDigits

/-- The **hexadecimal form** of an octet string, in lower-case digits. -/
def encode (b : Bytes) : String :=
  String.ofList (digits b)

/-- The hexadecimal form of an octet string, in upper-case digits. -/
def encodeUpper (b : Bytes) : String :=
  String.ofList ((digits b).map Char.toUpper)

/-- The value of the ASCII digit `octet`, found at `position`. -/
def digitValue (position : Nat) (octet : UInt8) : Except HexFault Nat :=
  let code := octet.toNat
  if 48 ≤ code ∧ code ≤ 57 then .ok (code - 48)
  else if 97 ≤ code ∧ code ≤ 102 then .ok (code - 87)
  else if 65 ≤ code ∧ code ≤ 70 then .ok (code - 55)
  else .error (.notADigit octet position)

/-- Reads pairs of digits, the first of which stands at `position`. -/
def decodePairs (position : Nat) : Bytes → Except HexFault Bytes
  | high :: low :: rest => do
    let upper ← digitValue position high
    let lower ← digitValue (position + 1) low
    let octets ← decodePairs (position + 2) rest
    return UInt8.ofNat (16 * upper + lower) :: octets
  | _ => .ok []

/-- The **octet string** that a text writes in hexadecimal. -/
def decode (text : String) : Except HexFault Bytes :=
  let octets := Bytes.ofText text
  if octets.length % 2 = 1 then .error .oddLength else decodePairs 0 octets

end Hex

end RemoteAttestation
