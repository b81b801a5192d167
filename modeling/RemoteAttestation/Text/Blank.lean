/-!
# Blank Space and Lines

Key files and lists of PCR indices are trimmed of white space, which here means every
character with the Unicode property `White_Space`, not only the ASCII blanks.

## Main definitions

* `Text.isBlank`: the white space characters.
* `Text.trim`: a text without white space at either end.
* `Text.lines`: the lines of a text, each without its line ending.
* `Text.occursIn`: whether one text is found inside another.
-/

namespace RemoteAttestation.Text

/-- The characters with the property `White_Space`. -/
def isBlank (c : Char) : Bool :=
  let code := c.toNat
  (9 ≤ code && code ≤ 13) || code == 0x20 || code == 0x85 || code == 0xA0 || code == 0x1680 ||
    (0x2000 ≤ code && code ≤ 0x200A) || code == 0x2028 || code == 0x2029 || code == 0x202F ||
    code == 0x205F || code == 0x3000

/-- The text without the white space it ends with. -/
def trimEnd (text : List Char) : List Char :=
  (text.reverse.dropWhile isBlank).reverse

/-- The text without the white space at its two ends. -/
def trim (text : List Char) : List Char :=
  trimEnd (text.dropWhile isBlank)

/-- A line that ended in a line feed, without the carriage return before it. One carriage
return belongs to the ending, any other to the line. -/
def dropReturn (line : List Char) : List Char :=
  if line.getLast? = some '\r' then line.dropLast else line

/-- The lines of the text that starts with the unfinished line `current`. -/
def linesFrom (current : List Char) : List Char → List (List Char)
  | [] => if current.isEmpty then [] else [current.reverse]
  | c :: rest =>
    if c = '\n' then dropReturn current.reverse :: linesFrom [] rest
    else linesFrom (c :: current) rest

/-- The **lines** of a text. A line ends with a line feed, or with a carriage return and a line
feed; a last line without an ending counts when it holds something, and keeps its carriage
return. -/
def lines (text : List Char) : List (List Char) :=
  linesFrom [] text

/-- Whether `word` stands somewhere in `text`. -/
def occursIn (word : List Char) : List Char → Bool
  | [] => word.isEmpty
  | c :: rest => word.isPrefixOf (c :: rest) || occursIn word rest

end RemoteAttestation.Text
