import RemoteAttestation.Der.Element

/-!
# DER Values

The contents of the elements that hold no others: integers, strings of bits, truth values,
object identifiers and times. Each has one encoding only, and a content that is not in that
form is refused.

## Main definitions

* `Der.natural?`, `Der.isInteger`: non-negative integers, and integers of either sign.
* `Der.BitString`, `Der.bitString?`: strings of bits.
* `Der.Identifier`, `Der.identifier?`: object identifiers, with `Identifier.dotted`.
* `Der.isTime`: points in time.
-/

namespace RemoteAttestation.Der

/-! ### Integers and truth values -/

/-- Whether octets are an integer in its shortest form: the first nine bits are not all
equal. -/
def isInteger : Bytes → Bool
  | [] => false
  | [_] => true
  | first :: second :: _ =>
    !(first == 0x00 && second < 0x80) && !(first == 0xff && 0x80 ≤ second)

/-- The non-negative integer that some octets denote. -/
def natural? (b : Bytes) : Option Nat :=
  match b with
  | [] => none
  | first :: _ => if isInteger b && first < 0x80 then some (Bytes.value b) else none

/-- Whether octets are a truth value. -/
def isBoolean (b : Bytes) : Bool :=
  b == [0x00] || b == [0xff]

/-! ### Strings of bits -/

/-- A string of bits: octets, of which the last few bits do not count. -/
structure BitString where
  /-- The number of bits of the last octet that do not count. -/
  unused : Nat
  /-- The octets. -/
  octets : Bytes
  deriving Repr, DecidableEq

/-- The string of bits in a content. -/
def bitString? : Bytes → Option BitString
  | [] => none
  | unused :: octets =>
    if 7 < unused ∨ (octets = [] ∧ unused ≠ 0) then none else some ⟨unused.toNat, octets⟩

/-! ### Object identifiers -/

/-- An object identifier, by its numbers. -/
abbrev Identifier := List Nat

/-- The numbers with dots between them. -/
def Identifier.dotted (id : Identifier) : String :=
  String.intercalate "." (id.map toString)

/-- Reads numbers of seven bits to the octet, the last octet of each below 128. `digits` is the
count of octets read of the current number, and `total` the number they denote. A number has at
most five octets, the fifth of which is small, and is taken modulo `2 ^ 32`. -/
def readNumbers? (digits total : Nat) : Bytes → Option (List Nat)
  | [] => if digits = 0 then some [] else none
  | octet :: rest =>
    if digits = 5 ∨ (digits = 4 ∧ 0x10 ≤ octet) then none
    else
      let next := (128 * total + octet.toNat % 128) % 1 <<< 32
      if octet < 0x80 then (next :: ·) <$> readNumbers? 0 0 rest
      else readNumbers? (digits + 1) next rest

/-- The **object identifier** in a content. The first octet holds two numbers. -/
def identifier? (b : Bytes) : Option Identifier :=
  if b.length < 3 ∨ 39 < b.length then none
  else match b with
    | [] => none
    | first :: rest =>
      if 120 ≤ first then none
      else (first.toNat / 40 :: first.toNat % 40 :: ·) <$> readNumbers? 0 0 rest

/-! ### Times -/

/-- The number that two decimal digits denote. -/
def twoDigits? (tens ones : UInt8) : Option Nat :=
  if 48 ≤ tens ∧ tens ≤ 57 ∧ 48 ≤ ones ∧ ones ≤ 57 then
    some (10 * (tens.toNat - 48) + (ones.toNat - 48))
  else none

/-- The numbers that an even count of decimal digits denote, two digits each. -/
def digitPairs? : Bytes → Option (List Nat)
  | [] => some []
  | [_] => none
  | tens :: ones :: rest => do
    let pair ← twoDigits? tens ones
    let pairs ← digitPairs? rest
    return pair :: pairs

/-- Whether a year has a leap day. -/
def isLeapYear (year : Nat) : Bool :=
  year % 4 == 0 && (year % 100 != 0 || year % 400 == 0)

/-- The number of days of a month. -/
def daysOfMonth (year month : Nat) : Nat :=
  if month = 2 then if isLeapYear year then 29 else 28
  else if month = 4 ∨ month = 6 ∨ month = 9 ∨ month = 11 then 30
  else 31

/-- Whether the numbers name a second since the year 1970. -/
def isMoment (year month day hour minute second : Nat) : Bool :=
  decide (1970 ≤ year ∧ 1 ≤ month ∧ month ≤ 12 ∧ 1 ≤ day ∧ day ≤ daysOfMonth year month ∧
    hour ≤ 23 ∧ minute ≤ 59 ∧ second ≤ 59)

/-- The numbers of a content that ends in the letter `Z`, two digits each. -/
def zuluPairs? (b : Bytes) : Option (List Nat) :=
  if b.getLast? = some 0x5a then digitPairs? b.dropLast else none

/-- Whether an element is a **time**. A year of two digits is one from 1950 to 2049. -/
def isTime (e : Element) : Bool :=
  if e.tag = utcTimeTag then
    match zuluPairs? e.content with
    | some [year, month, day, hour, minute, second] =>
      isMoment (if 50 ≤ year then 1900 + year else 2000 + year) month day hour minute second
    | _ => false
  else if e.tag = generalizedTimeTag then
    match zuluPairs? e.content with
    | some [century, year, month, day, hour, minute, second] =>
      isMoment (100 * century + year) month day hour minute second
    | _ => false
  else false

end RemoteAttestation.Der
