import RemoteAttestation.Proofs.Bytes.Base64
import RemoteAttestation.Proofs.Pem.Blocks

/-!
# Armored Strings

To send an octet string as a block is to write it in Base64 between two lines with the markers
of a label. Nothing more is fixed: the Base64 text may be broken into lines anywhere, each line
may be indented, there may be empty lines, and around the blocks there may be any text in which
the markers of this label do not stand, such as blocks with other labels (`Pem.Armored`).

All of this is read back as the same strings. The lines of a block have no hyphen in them, so
none is taken for a marker; and they have no white space but what they were padded with, so
trimming leaves just the pieces of the Base64 text.

## Main results

* `Pem.Spells.flatMap_trim`: the lines of a block, read as one text.
* `Pem.ends_of_pads`: the marker alone ends a block, whatever the label is.
* `Pem.blocks_of_armored`: armored strings are read back from any layout.
-/

namespace RemoteAttestation.Pem

section

variable {label : String} {line : List Char} {body lines : List (List Char)} {content : Bytes}
  {contents : List Bytes}

/-! ### The lines of a block -/

/-- Some lines **spell** a string: they pad the pieces of its Base64 text. -/
def Spells (body : List (List Char)) (content : Bytes) : Prop :=
  ∃ pieces : List (List Char),
    List.Forall₂ Text.Pads body pieces ∧ pieces.flatten = Base64.encode content

/-- What pads pieces without white space, read as **one text**. -/
theorem flatMap_trim_of_pads {pieces : List (List Char)} (h : List.Forall₂ Text.Pads body pieces)
    (hPieces : ∀ c ∈ pieces.flatten, Text.isBlank c = false) :
    body.flatMap Text.trim = pieces.flatten := by
  induction h with
  | nil => rfl
  | cons hPads _ ih =>
      rw [List.flatten_cons, List.forall_mem_append] at hPieces
      rw [List.flatMap_cons, List.flatten_cons, Text.trim_eq_of_pads hPads hPieces.1,
        ih hPieces.2]

/-- The lines of a block are the Base64 text of **what they spell**. -/
theorem Spells.flatMap_trim (h : Spells body content) :
    body.flatMap Text.trim = Base64.encode content := by
  obtain ⟨pieces, hPads, hPieces⟩ := h
  rw [flatMap_trim_of_pads hPads, hPieces]
  rw [hPieces]
  exact fun c => Base64.isBlank_of_mem_encode

/-- The pieces of a text have only characters of the text, and padding adds white space. -/
theorem Spells.not_hyphen_mem (h : Spells body content) : ∀ line ∈ body, '-' ∉ line := by
  obtain ⟨pieces, hPads, hPieces⟩ := h
  have hHyphen : '-' ∉ pieces.flatten := by
    rw [hPieces]
    exact fun hMem => Base64.ne_hyphen_of_mem_encode hMem rfl
  intro line hLine hMem
  obtain ⟨piece, hPiece, before, after, hBefore, hAfter, rfl⟩ :=
    exists_of_mem_of_forall₂ hPads hLine
  rw [List.mem_append, List.mem_append] at hMem
  rcases hMem with (hMem | hMem) | hMem
  · exact absurd (hBefore _ hMem) (by decide)
  · exact hHyphen (List.mem_flatten.mpr ⟨piece, hPiece, hMem⟩)
  · exact absurd (hAfter _ hMem) (by decide)

/-- **No marker** stands in a line without hyphens. -/
theorem neither_of_not_mem (h : '-' ∉ line) : Neither label line := by
  rw [Neither, toList_beginMarker, toList_endMarker]
  exact ⟨fun hInfix => h (hInfix.subset (hyphen_mem_fenced _)),
    fun hInfix => h (hInfix.subset (hyphen_mem_fenced _))⟩

/-- No line of a spelled string begins or ends a block, since there is no hyphen in it. -/
theorem Spells.neither (h : Spells body content) : ∀ line ∈ body, Neither label line :=
  fun line hLine => neither_of_not_mem (h.not_hyphen_mem line hLine)

/-! ### Lines with a marker -/

/-- A line with nothing but the marker **begins** a block. -/
theorem begins_of_pads (h : Text.Pads line (beginMarker label).toList) : Begins label line := by
  obtain ⟨before, after, -, -, rfl⟩ := h
  exact List.infix_append before _ after

/-- A line with nothing but the marker **ends** a block: the marker that begins one is
longer. -/
theorem ends_of_pads (h : Text.Pads line (endMarker label).toList) : Ends label line := by
  have hBegins : ¬ Begins label line := by
    rw [Begins, toList_beginMarker, fenced_infix_iff h, toList_endMarker]
    intro hInfix
    have hLength := hInfix.length_le
    simp [fenced, hyphens] at hLength
  obtain ⟨before, after, -, -, rfl⟩ := h
  exact ⟨List.infix_append before _ after, hBegins⟩

/-! ### Armored strings -/

/-- Some lines are **armored** strings, each in a block of a label. -/
inductive Armored (label : String) : List (List Char) → List Bytes → Prop where
  /-- There may be no block. -/
  | nil : Armored label [] []
  /-- A line outside the blocks is one in which no marker of the label stands. -/
  | outside {line : List Char} {lines : List (List Char)} {contents : List Bytes}
      (noMarker : Neither label line) (others : Armored label lines contents) :
      Armored label (line :: lines) contents
  /-- A block is a line that begins it, the lines that spell the string, and a line that ends
  it. -/
  | block {first last : List Char} {body lines : List (List Char)} {content : Bytes}
      {contents : List Bytes} (begins : Begins label first) (spells : Spells body content)
      (ends : Ends label last) (others : Armored label lines contents) :
      Armored label (first :: body ++ last :: lines) (content :: contents)

/-- Another line without markers may stand in front. -/
theorem Holds.cons_neither (h : Holds label lines contents) (hLine : Neither label line) :
    Holds label (line :: lines) contents := by
  cases h with
  | outside noMarker => exact .outside (List.forall_mem_cons.mpr ⟨hLine, noMarker⟩)
  | block noEnd begins noMarker ends written others =>
      exact .block (List.forall_mem_cons.mpr ⟨hLine.not_ends, noEnd⟩) begins noMarker ends written
        others

/-- Other lines without markers may stand **in front**. -/
theorem Armored.append {front : List (List Char)} (hFront : ∀ line ∈ front, Neither label line)
    (h : Armored label lines contents) : Armored label (front ++ lines) contents := by
  induction front with
  | nil => exact h
  | cons line front ih =>
      obtain ⟨hLine, hRest⟩ := List.forall_mem_cons.mp hFront
      exact .outside hLine (ih hRest)

/-- Lines with armored strings hold these strings as the contents of their blocks. -/
theorem Armored.holds (h : Armored label lines contents) : Holds label lines contents := by
  induction h with
  | nil => exact .outside nofun
  | outside noMarker _ ih => exact ih.cons_neither noMarker
  | @block first last body lines content contents begins spells ends _ ih =>
      have hNone : ∀ line ∈ ([] : List (List Char)), ¬ Ends label line := nofun
      have hWritten : Base64.decode (body.flatMap Text.trim) = some content := by
        rw [spells.flatMap_trim, Base64.decode_encode]
      exact .block hNone begins spells.neither ends hWritten ih

/-- **Armored strings are read back**, whatever the layout of the text is. -/
theorem blocks_of_armored {text : String} (hText : Text.HasLines text.toList lines)
    (hArmored : Armored label lines contents) : blocks label text = .ok contents := by
  rw [blocks_eq_ok_iff, hText.lines_eq]
  exact hArmored.holds

end

/-! ### A mixed layout -/

namespace MixedLayout

/-- A text with a comment, a block of another label, a block whose lines are indented, empty or
ended differently, and a block with nothing in it. -/
def text : String :=
  "Keys\r\n-----BEGIN RSA PUBLIC KEY-----\nAAAA\n-----END RSA PUBLIC KEY-----\n" ++
    "-----BEGIN PUBLIC KEY-----\r\n\t SGVsbG8g \r\n\n  V29y\nbGQ=\t\n" ++
      "  -----END PUBLIC KEY-----\n-----BEGIN PUBLIC KEY-----\n  -----END PUBLIC KEY-----"

/-- The lines in front of the first block of the label. -/
def others : List (List Char) :=
  ["Keys".toList, "-----BEGIN RSA PUBLIC KEY-----".toList, "AAAA".toList,
    "-----END RSA PUBLIC KEY-----".toList]

/-- The lines that begin the two blocks. -/
def first : List Char :=
  "-----BEGIN PUBLIC KEY-----".toList

/-- The lines that end them. -/
def last : List Char :=
  "  -----END PUBLIC KEY-----".toList

/-- The lines of the first block. -/
def body : List (List Char) :=
  ["\t SGVsbG8g ".toList, [], "  V29y".toList, "bGQ=\t".toList]

/-- What they spell. -/
def content : Bytes :=
  [72, 101, 108, 108, 111, 32, 87, 111, 114, 108, 100]

/-- The first line begins a block. -/
theorem begins : Begins "PUBLIC KEY" first :=
  begins_of_pads ⟨[], [], nofun, nofun, rfl⟩

theorem ends : Ends "PUBLIC KEY" last :=
  ends_of_pads ⟨[' ', ' '], [], List.all_eq_true.mp rfl, nofun, rfl⟩

/-- The lines between spell the content. -/
theorem spells : Spells body content := by
  refine ⟨["SGVsbG8g".toList, [], "V29y".toList, "bGQ=".toList], ?_, by decide +kernel⟩
  refine .cons ⟨['\t', ' '], [' '], List.all_eq_true.mp rfl, List.all_eq_true.mp rfl, rfl⟩ ?_
  refine .cons ⟨[], [], nofun, nofun, rfl⟩ ?_
  refine .cons ⟨[' ', ' '], [], List.all_eq_true.mp rfl, nofun, rfl⟩ ?_
  exact .cons ⟨[], ['\t'], nofun, List.all_eq_true.mp rfl, rfl⟩ .nil

/-- The whole has the content in its first block, and nothing in its second. -/
theorem armored : Armored "PUBLIC KEY" (others ++ (first :: body ++ last :: [first, last]))
    [content, []] := by
  have hOthers : ∀ line ∈ others, Neither "PUBLIC KEY" line := by
    intro line hLine
    rw [← lineKind_eq_other_iff]
    revert line
    decide +kernel
  have hBlocks : Armored "PUBLIC KEY" (first :: body ++ last :: [first, last]) [content, []] :=
    .block begins spells ends (.block begins ⟨[], .nil, rfl⟩ ends .nil)
  exact hBlocks.append hOthers

end MixedLayout

open MixedLayout in
/-- The blocks of a text with a mixed layout are read. -/
theorem blocks_of_armored_mixed : blocks "PUBLIC KEY" text = .ok [content, []] := by
  have hText : Text.HasLines text.toList (others ++ (first :: body ++ last :: [first, last])) :=
    Text.lines_eq_iff.mp (by decide +kernel)
  exact blocks_of_armored hText armored

end RemoteAttestation.Pem
