import RemoteAttestation.Text.Numeral
import RemoteAttestation.Text.Split

/-!
# Places in a File

A message about a file may end with the place it is about, ` at line 3 column 14`. Such an
ending always counts as the place of the message, even where it belonged to a text that the
message repeats.

## Main definitions

* `Text.isPlace`: whether a text is the numbers of a place.
* `Text.dropPlace`: a message without its place.
-/

namespace RemoteAttestation.Text

/-- Whether digits are the number of a line or a column: there are some, and the number is
below `2 ^ 64`. -/
def isPlaceNumber (digits : List Char) : Bool :=
  (Numeral.read 10 (1 <<< 64) digits).isOk

/-- Whether a text is two numbers with the word `column` between them. -/
def isPlace (text : List Char) : Bool :=
  let (line, rest) := text.span Char.isDigit
  let word := " column ".toList
  let column := rest.drop word.length
  word.isPrefixOf rest && column.all Char.isDigit && isPlaceNumber line && isPlaceNumber column

/-- A **message** without the place at its end, if it has one there. -/
def dropPlace (message : List Char) : List Char :=
  match splitLast? " at line ".toList message with
  | some (before, after) => if isPlace after then before else message
  | none => message

end RemoteAttestation.Text
