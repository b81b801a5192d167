import RemoteAttestation.Bytes.Basic

/-!
# DER Elements

Certificates and key files nest elements of a tag, a length and that many octets of content.
The distinguished encoding allows one form of each length, the shortest. The content of a
structured element is again a list of elements, and `Element.children?` takes it apart in one
go: every element of the list must be well formed and nothing may follow the last.

## Main definitions

* `Der.Element`: a tag with its content.
* `Der.readElement?`, `Der.element?`: the element a string starts with, and the one it is.
* `Der.Element.children?`: the elements inside an element.
* `Der.tagged?`: the contents of an element with a given tag.
-/

namespace RemoteAttestation.Der

/-! ### Tags -/

/-- The tags of the universal class that are known. -/
def universalTags : List UInt8 :=
  [0x01, 0x02, 0x03, 0x04, 0x05, 0x06, 0x09, 0x0a, 0x0c, 0x12, 0x13, 0x14, 0x15, 0x16, 0x17,
   0x18, 0x1a, 0x1e, 0x30, 0x31]

/-- The tag of a truth value. -/
def booleanTag : UInt8 := 0x01

/-- The tag of an integer. -/
def integerTag : UInt8 := 0x02

/-- The tag of a string of bits. -/
def bitStringTag : UInt8 := 0x03

/-- The tag of a string of octets. -/
def octetStringTag : UInt8 := 0x04

/-- The tag of an object identifier. -/
def identifierTag : UInt8 := 0x06

/-- The tag of a time with a year of two digits. -/
def utcTimeTag : UInt8 := 0x17

/-- The tag of a time with a year of four digits. -/
def generalizedTimeTag : UInt8 := 0x18

/-- The tag of a sequence. -/
def sequenceTag : UInt8 := 0x30

/-- The tag of a set. -/
def setTag : UInt8 := 0x31

/-- Whether an octet is a tag: a known one of the universal class, or one of another class with
a number below thirty-one. -/
def isTag (octet : UInt8) : Bool :=
  if octet < 0x40 then universalTags.contains octet else octet &&& 0x1f != 0x1f

/-- The number of a tag, when it is of the context-specific class. -/
def contextNumber? (tag : UInt8) : Option UInt8 :=
  if tag &&& 0xc0 = 0x80 then some (tag &&& 0x1f) else none

/-! ### Elements -/

/-- A tag with its content. -/
structure Element where
  /-- The tag. -/
  tag : UInt8
  /-- The octets of the content. -/
  content : Bytes
  deriving Repr, DecidableEq

/-- The largest length of an element. -/
def maxLength : Nat := 1 <<< 28 - 1

/-- Reads a length of `size` octets, which must need all of them. -/
def readLongLength? (size : Nat) (b : Bytes) : Option (Nat × Bytes) :=
  if b.length < size then none
  else
    let length := Bytes.value (b.take size)
    if length < 0x80 ∨ length < 1 <<< (8 * (size - 1)) ∨ maxLength < length then none
    else some (length, b.drop size)

/-- Reads a **length**: one octet below 128, or up to four octets behind their number. -/
def readLength? : Bytes → Option (Nat × Bytes)
  | [] => none
  | first :: rest =>
    if first < 0x80 then some (first.toNat, rest)
    else if first = 0x80 ∨ 0x84 < first then none
    else readLongLength? (first.toNat - 0x80) rest

/-- Reads the **element** that a string starts with. -/
def readElement? : Bytes → Option (Element × Bytes)
  | [] => none
  | tag :: rest =>
    if !isTag tag then none
    else match readLength? rest with
      | none => none
      | some (length, body) =>
        if body.length < length then none
        else some (⟨tag, body.take length⟩, body.drop length)

/-- Reads at most `count` elements that make up a string. -/
def readElements? : (count : Nat) → Bytes → Option (List Element)
  | _, [] => some []
  | 0, _ => none
  | count + 1, b => do
    let (element, rest) ← readElement? b
    let elements ← readElements? count rest
    return element :: elements

/-- The elements that make up a string. -/
def elements? (b : Bytes) : Option (List Element) :=
  readElements? b.length b

/-- The element that a string is. -/
def element? (b : Bytes) : Option Element :=
  match readElement? b with
  | some (element, []) => some element
  | _ => none

/-- The elements inside an element. -/
def Element.children? (e : Element) : Option (List Element) :=
  elements? e.content

/-- The content of an element, when it has the given tag. -/
def tagged? (tag : UInt8) (e : Element) : Option Bytes :=
  if e.tag = tag then some e.content else none

/-- The elements inside a sequence. -/
def sequence? (e : Element) : Option (List Element) :=
  (tagged? sequenceTag e).bind elements?

end RemoteAttestation.Der
