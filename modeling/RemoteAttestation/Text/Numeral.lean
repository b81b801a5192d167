/-!
# Numerals

How a written non-negative integer is read: an optional plus sign, then digits of the radix,
read from the left until a character is no digit or the number passes its bound. The first of
the two that is met decides the fault.

## Main definitions

* `Numeral.digit?`: the value of a digit in a radix of at most sixteen.
* `Numeral.read`: the number a text denotes, below a bound.
-/

namespace RemoteAttestation

/-- Why a text is not a numeral below its bound. -/
inductive NumeralFault where
  /-- There is nothing to read. -/
  | empty
  /-- A character is not a digit; a sign with nothing after it counts as one. -/
  | notADigit
  /-- The number reaches the bound. -/
  | tooLarge
  deriving Repr, DecidableEq

namespace NumeralFault

/-- The wording of a fault. -/
def message : NumeralFault → String
  | empty => "cannot parse integer from empty string"
  | notADigit => "invalid digit found in string"
  | tooLarge => "number too large to fit in target type"

end NumeralFault

namespace Numeral

/-- The value of a digit of either case, when it is below the radix. -/
def digit? (radix : Nat) (c : Char) : Option Nat :=
  let value? : Option Nat :=
    if '0' ≤ c ∧ c ≤ '9' then some (c.toNat - '0'.toNat)
    else if 'a' ≤ c ∧ c ≤ 'f' then some (c.toNat - 'a'.toNat + 10)
    else if 'A' ≤ c ∧ c ≤ 'F' then some (c.toNat - 'A'.toNat + 10)
    else none
  value?.filter (· < radix)

/-- Reads digits onto `total`, the number that the digits before them denote. -/
def readDigits (radix bound total : Nat) : List Char → Except NumeralFault Nat
  | [] => .ok total
  | c :: rest =>
    match digit? radix c with
    | none => .error .notADigit
    | some digit =>
      let next := radix * total + digit
      if next < bound then readDigits radix bound next rest else .error .tooLarge

/-- The **number** that `text` denotes in the radix, below `bound`. -/
def read (radix bound : Nat) : List Char → Except NumeralFault Nat
  | [] => .error .empty
  | ['+'] => .error .notADigit
  | '+' :: digits => readDigits radix bound 0 digits
  | digits => readDigits radix bound 0 digits

end Numeral

end RemoteAttestation
