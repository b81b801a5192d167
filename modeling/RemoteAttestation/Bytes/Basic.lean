/-!
# Byte Strings

Everything a TPM says is a string of octets, and every integer inside it is written with its
most significant octet first. This module holds the type of such strings and the two readings
of one as an integer: `Bytes.value` is the number a string denotes, `Bytes.ofNat` writes a
number in a fixed width. `Bytes.fit?` moves an integer to another width without changing it.

## Main definitions

* `Bytes.value`, `Bytes.ofNat`: the big-endian number of a string, and a string for a number.
* `Bytes.significant`, `Bytes.fit?`: an integer without its leading zeros, and in a given width.
* `Bytes.ofText`, `Bytes.toText?`: the UTF-8 form of a text, and the text of valid UTF-8.
-/

namespace RemoteAttestation

/-- A string of octets, the first octet first. -/
abbrev Bytes := List UInt8

namespace Bytes

/-! ### Integers -/

/-- The **number** that `b` denotes, most significant octet first. The empty string denotes
zero. -/
def value (b : Bytes) : Nat :=
  b.foldl (fun total octet => 256 * total + octet.toNat) 0

/-- The `width` octets that denote `n`, most significant first. A number of `256 ^ width` or
more loses its upper octets. -/
def ofNat : (width n : Nat) → Bytes
  | 0, _ => []
  | width + 1, n => UInt8.ofNat (n >>> (8 * width)) :: ofNat width n

/-- A number is written in exactly the octets that it is given. -/
@[simp] theorem length_ofNat (width n : Nat) : (ofNat width n).length = width := by
  induction width with
  | zero => rfl
  | succ width ih => simp [ofNat, ih]

/-- The octets of `b` from the first one that is not zero: the shortest string that denotes the
same number. -/
def significant (b : Bytes) : Bytes :=
  b.dropWhile (· == 0)

/-- The string of exactly `width` octets that denotes the same number as `b`, or `none` when
the number needs more octets than that. -/
def fit? (width : Nat) (b : Bytes) : Option Bytes :=
  let digits := b.significant
  if digits.length ≤ width then some (List.replicate (width - digits.length) 0 ++ digits)
  else none

/-- The octet-wise exclusive or of two strings, as long as the shorter one. -/
def xor (b mask : Bytes) : Bytes :=
  List.zipWith (· ^^^ ·) b mask

/-! ### Text -/

/-- The UTF-8 form of a text. -/
def ofText (text : String) : Bytes :=
  text.toUTF8.data.toList

/-- The text whose UTF-8 form `b` is, or `none` when `b` is not valid UTF-8. -/
def toText? (b : Bytes) : Option String :=
  String.fromUTF8? ⟨b.toArray⟩

end Bytes

end RemoteAttestation
