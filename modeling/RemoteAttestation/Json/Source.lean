import RemoteAttestation.Json.Numeral

/-!
# JSON Texts

Which of several faults in a settings file is reported depends on which comes first, so reading
keeps what was understood before a text stops being JSON. A `JsonSource` is a value as it was
found, up to that place: lists and objects say whether they were closed, and a value that
cannot be read at all is `malformed`. Strings with a half of a surrogate pair are JSON but no
text, and hold `none`.

## Main definitions

* `JsonSource`: a value as far as it could be read.
* `JsonSource.read`: the value a text starts with.
* `JsonDocument.ofText`: the value that a text is.
-/

namespace RemoteAttestation

/-- A JSON value as far as it could be read. -/
inductive JsonSource where
  /-- The null value. -/
  | null
  /-- A truth value. -/
  | bool (b : Bool)
  /-- A number. -/
  | number (n : JsonNumber)
  /-- A string, or `none` for one that is no text. -/
  | string (text : Option String)
  /-- A list, and whether it was closed. -/
  | array (items : List JsonSource) (closed : Bool)
  /-- An object, and whether it was closed. -/
  | object (members : List (Option String × JsonSource)) (closed : Bool)
  /-- A place where no value can be read. -/
  | malformed

namespace JsonSource

/-- Whether the value was read to its end. -/
def isComplete : JsonSource → Bool
  | array _ closed => closed
  | object _ closed => closed
  | malformed => false
  | _ => true

/-! ### Strings -/

/-- A part of a string: a character, or a sixteen-bit unit that is written by its number. -/
inductive Piece where
  | char (c : Char)
  | unit (n : Nat)
  deriving Repr, DecidableEq

/-- The number of four hexadecimal digits. -/
def fourDigits? (a b c d : Char) : Option Nat := do
  let a ← Numeral.digit? 16 a
  let b ← Numeral.digit? 16 b
  let c ← Numeral.digit? 16 c
  let d ← Numeral.digit? 16 d
  return 4096 * a + 256 * b + 16 * c + d

/-- The character that a letter after a backslash stands for. -/
def escaped? : Char → Option Char
  | '"' => some '"'
  | '\\' => some '\\'
  | '/' => some '/'
  | 'b' => some '\x08'
  | 'f' => some '\x0c'
  | 'n' => some '\n'
  | 'r' => some '\r'
  | 't' => some '\t'
  | _ => none

/-- Reads the parts of a string up to the closing quote. -/
def readPieces? : List Char → Option (List Piece × List Char)
  | '"' :: rest => some ([], rest)
  | '\\' :: 'u' :: a :: b :: c :: d :: rest => do
    let n ← fourDigits? a b c d
    let (pieces, rest) ← readPieces? rest
    return (.unit n :: pieces, rest)
  | '\\' :: c :: rest => do
    let c ← escaped? c
    let (pieces, rest) ← readPieces? rest
    return (.char c :: pieces, rest)
  | c :: rest =>
    if c.toNat < 0x20 then none
    else do
      let (pieces, rest) ← readPieces? rest
      return (.char c :: pieces, rest)
  | [] => none

/-- The characters that some parts of a string make up. A unit that is the first half of a pair
must be followed by a second half, and a second half by itself is no character. -/
def joinPieces? : List Piece → Option (List Char)
  | [] => some []
  | .char c :: rest => (c :: ·) <$> joinPieces? rest
  | .unit high :: .unit low :: rest =>
    if 0xD800 ≤ high ∧ high < 0xDC00 then
      if 0xDC00 ≤ low ∧ low < 0xE000 then
        (Char.ofNat (0x10000 + 0x400 * (high - 0xD800) + (low - 0xDC00)) :: ·) <$> joinPieces? rest
      else none
    else if 0xDC00 ≤ high ∧ high < 0xE000 then none
    else (Char.ofNat high :: ·) <$> joinPieces? (.unit low :: rest)
  | .unit n :: rest =>
    if 0xD800 ≤ n ∧ n < 0xE000 then none else (Char.ofNat n :: ·) <$> joinPieces? rest

/-- Reads a string behind its opening quote. -/
def readString? (text : List Char) : Option (Option String × List Char) :=
  (readPieces? text).map fun (pieces, rest) => ((joinPieces? pieces).map String.ofList, rest)

/-! ### Values -/

/-- The text without the blanks it starts with. -/
def skipBlanks (text : List Char) : List Char :=
  text.dropWhile fun c => c == ' ' || c == '\n' || c == '\t' || c == '\r'

/-- What follows a word at the start of a text. -/
def afterWord? (word : String) (text : List Char) : Option (List Char) :=
  if word.toList.isPrefixOf text then some (text.drop word.length) else none

/-- Reads a value that is neither a list nor an object. -/
def readScalar (text : List Char) : JsonSource × List Char :=
  match text with
  | '"' :: rest =>
    match readString? rest with
    | some (text, rest) => (string text, rest)
    | none => (malformed, [])
  | _ =>
    match afterWord? "null" text, afterWord? "true" text, afterWord? "false" text with
    | some rest, _, _ => (null, rest)
    | _, some rest, _ => (bool true, rest)
    | _, _, some rest => (bool false, rest)
    | _, _, _ =>
      match JsonNumber.read? text with
      | some (n, rest) => (number n, rest)
      | none => (malformed, [])

/-- Reads the name of a member and the colon after it. -/
def readName? (text : List Char) : Option (Option String × List Char) :=
  match skipBlanks text with
  | '"' :: rest =>
    match readString? rest with
    | some (name, rest) =>
      match skipBlanks rest with
      | ':' :: rest => some (name, rest)
      | _ => none
    | none => none
  | _ => none

mutual

/-- Reads the **value** a text starts with, in at most `steps` nested steps. -/
def readValue : (steps : Nat) → List Char → JsonSource × List Char
  | 0, _ => (malformed, [])
  | steps + 1, text =>
    match skipBlanks text with
    | '[' :: rest =>
      match skipBlanks rest with
      | ']' :: rest => (array [] true, rest)
      | _ =>
        let (items, closed, rest) := readItems steps rest
        (array items closed, rest)
    | '\x7b' :: rest =>
      match skipBlanks rest with
      | '\x7d' :: rest => (object [] true, rest)
      | _ =>
        let (members, closed, rest) := readMembers steps rest
        (object members closed, rest)
    | text => readScalar text

/-- Reads the items of a list, of which there is at least one, and its closing bracket. -/
def readItems : (steps : Nat) → List Char → List JsonSource × Bool × List Char
  | 0, _ => ([], false, [])
  | steps + 1, text =>
    let (item, rest) := readValue steps text
    if !item.isComplete then ([item], false, [])
    else match skipBlanks rest with
      | ',' :: rest =>
        let (items, closed, rest) := readItems steps rest
        (item :: items, closed, rest)
      | ']' :: rest => ([item], true, rest)
      | _ => ([item], false, [])

/-- Reads the members of an object, of which there is at least one, and its closing brace. -/
def readMembers : (steps : Nat) → List Char → List (Option String × JsonSource) × Bool × List Char
  | 0, _ => ([], false, [])
  | steps + 1, text =>
    match readName? text with
    | none => ([], false, [])
    | some (name, rest) =>
      let (value, rest) := readValue steps rest
      if !value.isComplete then ([(name, value)], false, [])
      else match skipBlanks rest with
        | ',' :: rest =>
          let (members, closed, rest) := readMembers steps rest
          ((name, value) :: members, closed, rest)
        | '\x7d' :: rest => ([(name, value)], true, rest)
        | _ => ([(name, value)], false, [])

end

/-- Reads the **value** a text starts with. A step uses up a character or starts a value or an
item, so there are at most two steps for each character. -/
def read (text : List Char) : JsonSource × List Char :=
  readValue (2 * text.length + 2) text

/-! ### Whole values -/

mutual

/-- Whether the value is usable as it stands: all strings are texts, and all numbers are finite
in double precision. -/
def isUsable : JsonSource → Bool
  | number n => n.isFinite
  | string text => text.isSome
  | array items closed => closed && areUsable items
  | object members closed => closed && areUsableMembers members
  | malformed => false
  | _ => true

/-- Whether all items are usable. -/
def areUsable : List JsonSource → Bool
  | [] => true
  | item :: items => isUsable item && areUsable items

/-- Whether all members are usable. -/
def areUsableMembers : List (Option String × JsonSource) → Bool
  | [] => true
  | (name, value) :: members => name.isSome && isUsable value && areUsableMembers members

end

mutual

/-- The number of lists and objects around the innermost part of a value. -/
def depth : JsonSource → Nat
  | array items _ => depthItems items + 1
  | object members _ => depthMembers members + 1
  | _ => 0

/-- The largest depth of some items. -/
def depthItems : List JsonSource → Nat
  | [] => 0
  | item :: items => max (depth item) (depthItems items)

/-- The largest depth of some members. -/
def depthMembers : List (Option String × JsonSource) → Nat
  | [] => 0
  | (_, value) :: members => max (depth value) (depthMembers members)

end

/-! ### Views -/

/-- The text of a string. -/
def text? : JsonSource → Option String
  | string text => text
  | _ => none

/-- The items of a closed list. -/
def items? : JsonSource → Option (List JsonSource)
  | array items true => some items
  | _ => none

/-- The members of a closed object, whose names must be texts. -/
def members? : JsonSource → Option (List (String × JsonSource))
  | object members true => members.mapM fun (name, value) => name.map (·, value)
  | _ => none

/-- The integer of a number. -/
def integer? (bound : Nat) : JsonSource → Option Nat
  | number n => n.integer? bound
  | _ => none

end JsonSource

/-- A JSON value with the information whether only blanks follow it. -/
structure JsonDocument where
  /-- The value. -/
  value : JsonSource
  /-- Whether nothing else follows. -/
  ended : Bool

/-- The **document** in a text. -/
def JsonDocument.ofText (text : String) : JsonDocument :=
  let (value, rest) := JsonSource.read text.toList
  ⟨value, (JsonSource.skipBlanks rest).isEmpty⟩

end RemoteAttestation
