import RemoteAttestation.Bytes.Hex

/-!
# JSON Output

Reports are printed as JSON, laid out for people: each item on a line of its own, indented by
two blanks for each level, and nothing between the brackets of an empty list. Members of an
object keep the order in which they are given.

## Main definitions

* `Json`: the values that reports are made of.
* `Json.quote`: a text as a JSON string.
* `Json.pretty`: a value laid out over lines.
-/

namespace RemoteAttestation

/-- A value to be printed as JSON. -/
inductive Json where
  /-- A truth value. -/
  | bool (b : Bool)
  /-- A non-negative integer. -/
  | number (n : Nat)
  /-- A text. -/
  | string (text : String)
  /-- A list of values. -/
  | array (items : List Json)
  /-- Named values, in the order of printing. -/
  | object (members : List (String × Json))

namespace Json

/-- A character inside a JSON string. -/
def escape (c : Char) : List Char :=
  if c = '"' then ['\\', '"']
  else if c = '\\' then ['\\', '\\']
  else if c = '\x08' then ['\\', 'b']
  else if c = '\x0c' then ['\\', 'f']
  else if c = '\n' then ['\\', 'n']
  else if c = '\r' then ['\\', 'r']
  else if c = '\t' then ['\\', 't']
  else if c.toNat < 0x20 then ['\\', 'u', '0', '0'] ++ Hex.octetDigits (UInt8.ofNat c.toNat)
  else [c]

/-- A text as a JSON string. -/
def quote (text : String) : List Char :=
  '"' :: text.toList.flatMap escape ++ ['"']

/-- A new line with `depth` levels of indentation. -/
def newLine (depth : Nat) : List Char :=
  '\n' :: List.replicate (2 * depth) ' '

mutual

/-- A value at a level of indentation, without what comes before it on its line. -/
def layout (depth : Nat) : Json → List Char
  | bool b => (toString b).toList
  | number n => Nat.toDigits 10 n
  | string text => quote text
  | array [] => ['[', ']']
  | array (item :: items) =>
    '[' :: newLine (depth + 1) ++ layout (depth + 1) item ++ layoutItems (depth + 1) items ++
      newLine depth ++ [']']
  | object [] => ['\x7b', '\x7d']
  | object ((name, value) :: members) =>
    '\x7b' :: newLine (depth + 1) ++ quote name ++ ':' :: ' ' :: layout (depth + 1) value ++
      layoutMembers (depth + 1) members ++ newLine depth ++ ['\x7d']

/-- The items of a list after the first, each behind a comma. -/
def layoutItems (depth : Nat) : List Json → List Char
  | [] => []
  | item :: items => ',' :: newLine depth ++ layout depth item ++ layoutItems depth items

/-- The members of an object after the first, each behind a comma. -/
def layoutMembers (depth : Nat) : List (String × Json) → List Char
  | [] => []
  | (name, value) :: members =>
    ',' :: newLine depth ++ quote name ++ ':' :: ' ' :: layout depth value ++
      layoutMembers depth members

end

/-- A value **laid out** over lines. -/
def pretty (value : Json) : String :=
  String.ofList (layout 0 value)

end Json

end RemoteAttestation
