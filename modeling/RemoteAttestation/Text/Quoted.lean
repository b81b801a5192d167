import RemoteAttestation.Text.Invisible

/-!
# Quoted Text

Messages show a text or a character that came from outside in quotes, with escapes, so that
blanks and invisible characters can be told apart. A text stands in double quotes and escapes
those, a single character stands in single quotes and escapes those; the other quote is left
as it is.

## Main definitions

* `Quoted.text`: a text in double quotes.
* `Quoted.character`: a character in single quotes.
* `Quoted.indices`: a list of small numbers in brackets.
-/

namespace RemoteAttestation.Quoted

/-- A character inside the given quotes. -/
def escape (quote c : Char) : List Char :=
  if c = '\x00' then ['\\', '0']
  else if c = '\t' then ['\\', 't']
  else if c = '\r' then ['\\', 'r']
  else if c = '\n' then ['\\', 'n']
  else if c = '\\' ∨ c = quote then ['\\', c]
  else if Text.isInvisible c then
    ['\\', 'u', '\x7b'] ++ Nat.toDigits 16 c.toNat ++ ['\x7d']
  else [c]

/-- A text in double quotes. -/
def text (s : String) : String :=
  String.ofList ('"' :: s.toList.flatMap (escape '"') ++ ['"'])

/-- A character in single quotes. -/
def character (c : Char) : String :=
  String.ofList ('\'' :: escape '\'' c ++ ['\''])

/-- A list of small numbers, separated by commas and blanks, in brackets. -/
def indices (numbers : List UInt8) : String :=
  "[" ++ String.intercalate ", " (numbers.map fun n => toString n.toNat) ++ "]"

end RemoteAttestation.Quoted
