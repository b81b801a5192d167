import RemoteAttestation.Text.Numeral

/-!
# Numbers in JSON Texts

A number is kept as it is written, because its spelling matters: only digits without a sign, a
point or an exponent are an integer. Any other number is meant in double precision. It may be
too large for that, in which case a text that holds it cannot be used. The limit is not exact:
a number is judged by its leading digits and by the product of two rounded factors.

## Main definitions

* `JsonNumber`, `JsonNumber.read?`: a written number, and its reader.
* `JsonNumber.integer?`: the integer that is written.
* `JsonNumber.isFinite`: whether the number is in the range of double precision.
-/

namespace RemoteAttestation

/-- A number as it is written in a JSON text. -/
structure JsonNumber where
  /-- Whether a minus sign stands in front. -/
  negative : Bool
  /-- The digits before the point. -/
  whole : List Char
  /-- The digits after the point, if there is one. -/
  fraction : Option (List Char)
  /-- Whether the exponent is negative, and its digits, if there is one. -/
  exponent : Option (Bool × List Char)
  deriving Repr, DecidableEq

namespace JsonNumber

/-- The digits a text starts with, and what follows them. -/
def digits (text : List Char) : List Char × List Char :=
  text.span Char.isDigit

/-- Reads at least one digit. -/
def readDigits? (text : List Char) : Option (List Char × List Char) :=
  match digits text with
  | ([], _) => none
  | (ds, rest) => some (ds, rest)

/-- Reads the digits before the point. A zero stands alone. -/
def readWhole? : List Char → Option (List Char × List Char)
  | '0' :: rest => if rest.head?.any Char.isDigit then none else some (['0'], rest)
  | text => readDigits? text

/-- Reads a point with digits, if there is a point. -/
def readFraction? : List Char → Option (Option (List Char) × List Char)
  | '.' :: rest => (readDigits? rest).map fun (ds, rest) => (some ds, rest)
  | text => some (none, text)

/-- Reads the sign and the digits of an exponent. -/
def readSigned? : List Char → Option ((Bool × List Char) × List Char)
  | '-' :: rest => (readDigits? rest).map fun (ds, rest) => ((true, ds), rest)
  | '+' :: rest => (readDigits? rest).map fun (ds, rest) => ((false, ds), rest)
  | text => (readDigits? text).map fun (ds, rest) => ((false, ds), rest)

/-- Reads an exponent, if there is one. -/
def readExponent? : List Char → Option (Option (Bool × List Char) × List Char)
  | 'e' :: rest => (readSigned? rest).map fun (e, rest) => (some e, rest)
  | 'E' :: rest => (readSigned? rest).map fun (e, rest) => (some e, rest)
  | text => some (none, text)

/-- Reads a **number** after its sign. -/
def readUnsigned? (negative : Bool) (text : List Char) : Option (JsonNumber × List Char) := do
  let (whole, rest) ← readWhole? text
  let (fraction, rest) ← readFraction? rest
  let (exponent, rest) ← readExponent? rest
  return (⟨negative, whole, fraction, exponent⟩, rest)

/-- Reads a **number**. -/
def read? : List Char → Option (JsonNumber × List Char)
  | '-' :: rest => readUnsigned? true rest
  | text => readUnsigned? false text

/-- The number that some digits denote. -/
def value (ds : List Char) : Nat :=
  ds.foldl (fun total c => 10 * total + (c.toNat - '0'.toNat)) 0

/-- The **integer** that is written, when it has no sign and is below `bound`. -/
def integer? (n : JsonNumber) (bound : Nat) : Option Nat :=
  if n.negative || n.fraction.isSome || n.exponent.isSome then none
  else if value n.whole < bound then some (value n.whole) else none

/-! ### Double precision -/

/-- The number that is nearest to `n` among those with 53 binary digits; of two that are
equally near, the one whose last digit is even. -/
def roundToDouble (n : Nat) : Nat :=
  let unit := 1 <<< (n.log2 - 52)
  let quotient := n / unit
  let twice := 2 * (n % unit)
  let up := unit < twice ∨ (unit = twice ∧ quotient % 2 = 1)
  (if up then quotient + 1 else quotient) * unit

/-- The least number that is rounded to infinity in double precision. -/
def infinite : Nat := 1 <<< 1024 - 1 <<< 970

/-- The largest power of ten that is finite in double precision. -/
def maxPower : Nat := 308

/-- Puts digits behind `total` while the number stays below `2 ^ 64`, and gives the digits that
are left. -/
def takeDigits (total : Nat) : List Char → Nat × List Char
  | [] => (total, [])
  | c :: rest =>
    let next := 10 * total + (c.toNat - '0'.toNat)
    if next < 1 <<< 64 then takeDigits next rest else (total, c :: rest)

/-- The **significand** of a number and the power of ten that goes with it. The significand has
the leading digits that fit in 64 bits. Digits before the point that do not fit count as zeros,
and those after it do not count. -/
def scientific (n : JsonNumber) : Nat × Int :=
  let (whole, unread) := takeDigits 0 n.whole
  let fraction := n.fraction.getD []
  let (significand, ignored) := takeDigits whole fraction
  let point : Int := unread.length - (fraction.length - ignored.length : Nat)
  let exponent : Int := match n.exponent with
    | none => 0
    | some (true, ds) => -(value ds : Int)
    | some (false, ds) => value ds
  (significand, point + exponent)

/-- Whether the number is **finite** in double precision, in which it is the product of its
significand and its power of ten. Each of the two is rounded, and so is the product. -/
def isFinite (n : JsonNumber) : Bool :=
  let (significand, exponent) := n.scientific
  if significand = 0 ∨ exponent < 0 then true
  else if maxPower < exponent then false
  else decide (roundToDouble significand * roundToDouble (Nat.pow 10 exponent.toNat) < infinite)

end JsonNumber

end RemoteAttestation
