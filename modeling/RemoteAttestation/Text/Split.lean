/-!
# Splitting Text

Operators join words by a mark: a colon after a name, commas in a list. The pieces hold no
mark, and putting the mark back between them gives the text again.

## Main definitions

* `Text.splitFirst?`: the text before and after the first mark.
* `Text.splitAll`: the pieces between all marks.
* `Text.splitLast?`: the text before and after the last place of a word.
-/

namespace RemoteAttestation.Text

/-- The text before and after the first `mark`, or `none` when there is no mark. -/
def splitFirst? (mark : Char) : List Char → Option (List Char × List Char)
  | [] => none
  | c :: rest =>
    if c = mark then some ([], rest)
    else (splitFirst? mark rest).map fun (before, after) => (c :: before, after)

/-- The pieces between the marks of a text. There is one more than there are marks. -/
def splitAll (mark : Char) : List Char → List (List Char)
  | [] => [[]]
  | c :: rest =>
    if c = mark then [] :: splitAll mark rest
    else match splitAll mark rest with
      | [] => [[c]]
      | piece :: pieces => (c :: piece) :: pieces

/-- The text before and after the last place where `word` stands, or `none` when it stands
nowhere. -/
def splitLast? (word : List Char) : List Char → Option (List Char × List Char)
  | [] => if word.isEmpty then some ([], []) else none
  | c :: rest =>
    match splitLast? word rest with
    | some (before, after) => some (c :: before, after)
    | none =>
      if word.isPrefixOf (c :: rest) then some ([], (c :: rest).drop word.length) else none

end RemoteAttestation.Text
