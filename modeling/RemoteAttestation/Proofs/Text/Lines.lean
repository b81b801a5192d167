import Mathlib.Data.List.DropRight
import Mathlib.Data.List.Infix
import Mathlib.Data.List.TakeDrop
import RemoteAttestation.Text.Blank

/-!
# Lines, and What Stands in Them

A text is written line by line: each line ends with a line feed, or with a carriage return and
a line feed, and the last one may be left without an end (`Text.HasLines`). Reading takes one
character after the other, and finds the same lines. There is only one way to see a text as
lines, because a line that ends with a line feed alone may not have a carriage return before
it.

A word without line breaks stands somewhere in a text when it stands in one of the lines, so a
search through the whole text and a search line by line agree. The end of a line does not hide
a word either, unless the word ends with a carriage return.

## Main results

* `Text.lines_eq_iff`: the lines that are read are those that were written.
* `Text.occursIn_iff`, `Text.HasLines.occursIn_iff`: where a word stands.
* `Text.exists_lines_append`: the lines of a text with a word in its first line.
* `Text.trim_eq_of_pads`: trimming leaves what was padded.
-/

namespace RemoteAttestation.Text

/-! ### Words -/

variable {word text line : List Char}

/-- A word occurs in a text when it stands somewhere in it. -/
theorem occursIn_iff : occursIn word text = true ↔ word <:+: text := by
  induction text with
  | nil => rw [occursIn, List.isEmpty_iff, List.infix_nil]
  | cons c text ih =>
      rw [occursIn, Bool.or_eq_true, List.isPrefixOf_iff_prefix, ih, List.infix_cons_iff]

/-- A word does not reach **across a character** that it does not have. -/
theorem infix_append_cons_iff {c : Char} (h : c ∉ word) (before after : List Char) :
    word <:+: before ++ c :: after ↔ word <:+: before ∨ word <:+: after := by
  constructor
  · rintro ⟨left, right, hText⟩
    rcases List.append_eq_append_iff.mp hText with ⟨gap, rfl, -⟩ | ⟨beyond, hLeft, hRight⟩
    · exact .inl (List.infix_append left word gap)
    rcases List.append_eq_append_iff.mp hLeft with ⟨part, rfl, rfl⟩ | ⟨gap, rfl, rfl⟩
    · -- The word begins before the character, so it must end before it as well.
      cases beyond with
      | nil =>
          rw [List.append_nil]
          exact .inl (List.suffix_append left part).isInfix
      | cons d beyond =>
          obtain ⟨rfl, -⟩ := List.cons.inj hRight
          exact absurd (by simp) h
    · cases gap with
      | nil =>
          cases word with
          | nil => exact .inr (List.nil_infix)
          | cons d word =>
              obtain ⟨rfl, -⟩ := List.cons.inj hRight
              exact absurd List.mem_cons_self h
      | cons d gap =>
          obtain ⟨-, rfl⟩ := List.cons.inj hRight
          exact .inr (List.infix_append gap word right)
  · rintro (h | h)
    · exact h.trans (List.prefix_append _ _).isInfix
    · exact h.trans ((List.suffix_cons c after).trans (List.suffix_append _ _)).isInfix

/-- A word does not reach **to a last character** that is not its own. -/
theorem infix_concat_iff_of_getLast? {c : Char} (hLast : word.getLast? ≠ some c) :
    word <:+: line ++ [c] ↔ word <:+: line := by
  rw [List.infix_concat_iff, List.suffix_concat_iff]
  constructor
  · rintro ((rfl | ⟨front, rfl, -⟩) | h)
    · exact List.nil_infix
    · exact absurd List.getLast?_concat hLast
    · exact h
  · exact .inr

/-- Characters in front of a line that do not begin a word **do not matter** to where it
stands. -/
theorem infix_append_iff_of_head? {before : List Char} (h : ∀ c ∈ before, word.head? ≠ some c) :
    word <:+: before ++ line ↔ word <:+: line := by
  induction before with
  | nil => rfl
  | cons c before ih =>
      obtain ⟨hFirst, hRest⟩ := List.forall_mem_cons.mp h
      rw [List.cons_append, List.infix_cons_iff, List.prefix_cons_iff, ih hRest]
      constructor
      · rintro ((rfl | ⟨rest, rfl, -⟩) | hInfix)
        · exact List.nil_infix
        · exact absurd rfl hFirst
        · exact hInfix
      · exact .inr

/-- Nor do characters behind it that do not end the word. -/
theorem infix_append_iff_of_getLast? {after : List Char}
    (h : ∀ c ∈ after, word.getLast? ≠ some c) : word <:+: line ++ after ↔ word <:+: line := by
  induction after generalizing line with
  | nil => rw [List.append_nil]
  | cons c after ih =>
      obtain ⟨hFirst, hRest⟩ := List.forall_mem_cons.mp h
      have hSplit : line ++ c :: after = (line ++ [c]) ++ after := by simp
      rw [hSplit, ih hRest, infix_concat_iff_of_getLast? hFirst]

/-- The end of a line **hides no word**, unless the word ends with a carriage return. -/
theorem infix_dropReturn_iff (hLast : word.getLast? ≠ some '\r') :
    word <:+: dropReturn line ↔ word <:+: line := by
  rw [dropReturn]
  split
  · rename_i hReturn
    obtain ⟨front, rfl⟩ := List.getLast?_eq_some_iff.mp hReturn
    rw [List.dropLast_concat, infix_concat_iff_of_getLast? hLast]
  · rfl

/-! ### Reading lines -/

/-- Characters without a line feed are added to the current line. -/
theorem linesFrom_append {line : List Char} (h : '\n' ∉ line) (current rest : List Char) :
    linesFrom current (line ++ rest) = linesFrom (line.reverse ++ current) rest := by
  induction line generalizing current with
  | nil => rfl
  | cons c line ih =>
      rw [List.mem_cons, not_or] at h
      rw [List.cons_append, linesFrom, if_neg (Ne.symm h.1), ih h.2, List.reverse_cons,
        List.append_assoc, List.singleton_append]

/-- A line that ends with a line feed. -/
theorem lines_append_feed (h : '\n' ∉ line) (rest : List Char) :
    lines (line ++ '\n' :: rest) = dropReturn line :: lines rest := by
  rw [lines, linesFrom_append h, linesFrom, if_pos rfl, List.append_nil, List.reverse_reverse]
  rfl

/-- A last line that is not ended. -/
theorem lines_of_not_mem (h : '\n' ∉ line) : lines line = if line = [] then [] else [line] := by
  have hRead := linesFrom_append h [] []
  rw [List.append_nil, List.append_nil] at hRead
  simp only [lines, hRead, linesFrom, List.isEmpty_iff, List.reverse_eq_nil_iff,
    List.reverse_reverse]

/-- A text that ends with a line feed ends no line **of what follows it**. -/
theorem lines_append (before after : List Char) :
    lines (before ++ '\n' :: after) = lines (before ++ ['\n']) ++ lines after := by
  by_cases hFeed : '\n' ∈ before
  · obtain ⟨line, rest, rfl, hLine⟩ := List.eq_append_cons_of_mem hFeed
    have hShorter : rest.length < (line ++ '\n' :: rest).length := by
      rw [List.length_append, List.length_cons]
      omega
    rw [List.append_assoc, List.append_assoc, List.cons_append, List.cons_append,
      lines_append_feed hLine, lines_append_feed hLine, lines_append rest after, List.cons_append]
  · rw [lines_append_feed hFeed, lines_append_feed hFeed]
    rfl
termination_by before.length

/-! ### Written lines -/

/-- A text **has** some lines: it is what they are, each with its end. -/
inductive HasLines : List Char → List (List Char) → Prop where
  /-- A text with no lines is empty. -/
  | nil : HasLines [] []
  /-- The last line may not be ended, if it is there at all. -/
  | last {line : List Char} (noFeed : '\n' ∉ line) (ne_nil : line ≠ []) : HasLines line [line]
  /-- A line may end with a line feed, without a carriage return before it. -/
  | feed {line rest : List Char} {lines : List (List Char)} (noFeed : '\n' ∉ line)
      (noReturn : line.getLast? ≠ some '\r') (others : HasLines rest lines) :
      HasLines (line ++ '\n' :: rest) (line :: lines)
  /-- A line may end with a carriage return and a line feed. -/
  | returnFeed {line rest : List Char} {lines : List (List Char)} (noFeed : '\n' ∉ line)
      (others : HasLines rest lines) : HasLines (line ++ '\r' :: '\n' :: rest) (line :: lines)

/-- A text is read as the lines that it has. -/
theorem HasLines.lines_eq {ls : List (List Char)} (h : HasLines text ls) : lines text = ls := by
  induction h with
  | nil => rfl
  | last noFeed ne_nil => rw [lines_of_not_mem noFeed, if_neg ne_nil]
  | feed noFeed noReturn _ ih => rw [lines_append_feed noFeed, dropReturn, if_neg noReturn, ih]
  | @returnFeed line rest _ noFeed _ ih =>
      have hFeed : '\n' ∉ line ++ ['\r'] := by simp [noFeed]
      have hLines := lines_append_feed hFeed rest
      rw [List.append_assoc, List.singleton_append] at hLines
      rw [hLines, dropReturn, if_pos List.getLast?_concat, List.dropLast_concat, ih]

/-- A text has the lines that it is read as. -/
theorem hasLines_lines (text : List Char) : HasLines text (lines text) := by
  by_cases hFeed : '\n' ∈ text
  · obtain ⟨line, rest, rfl, hLine⟩ := List.eq_append_cons_of_mem hFeed
    have hShorter : rest.length < (line ++ '\n' :: rest).length := by
      rw [List.length_append, List.length_cons]
      omega
    have hRest := hasLines_lines rest
    rw [lines_append_feed hLine]
    by_cases hReturn : line.getLast? = some '\r'
    · obtain ⟨front, rfl⟩ := List.getLast?_eq_some_iff.mp hReturn
      have hFront : '\n' ∉ front := fun h => hLine (List.mem_append_left _ h)
      rw [dropReturn, if_pos hReturn, List.dropLast_concat, List.append_assoc,
        List.singleton_append]
      exact .returnFeed hFront hRest
    · rw [dropReturn, if_neg hReturn]
      exact .feed hLine hReturn hRest
  · rw [lines_of_not_mem hFeed]
    split
    · rename_i hNil
      rw [hNil]
      exact .nil
    · rename_i hNil
      exact .last hFeed hNil
termination_by text.length

/-- **The lines that are read are those that were written.** -/
theorem lines_eq_iff {ls : List (List Char)} : lines text = ls ↔ HasLines text ls :=
  ⟨fun h => h ▸ hasLines_lines text, HasLines.lines_eq⟩

/-- Lines that end with line feeds. -/
theorem hasLines_flatMap {ls : List (List Char)}
    (h : ∀ line ∈ ls, '\n' ∉ line ∧ line.getLast? ≠ some '\r') :
    HasLines (ls.flatMap (· ++ ['\n'])) ls := by
  induction ls with
  | nil => exact .nil
  | cons line ls ih =>
      obtain ⟨⟨hFeed, hReturn⟩, hRest⟩ := List.forall_mem_cons.mp h
      rw [List.flatMap_cons, List.append_assoc, List.singleton_append]
      exact .feed hFeed hReturn (ih hRest)

/-- A line of a text **stands in it**. -/
theorem HasLines.infix_of_mem {ls : List (List Char)} (h : HasLines text ls) :
    ∀ line ∈ ls, line <:+: text := by
  induction h with
  | nil => exact nofun
  | last noFeed ne_nil => simp
  | @feed line rest _ noFeed noReturn _ ih =>
      refine List.forall_mem_cons.mpr ⟨(List.prefix_append _ _).isInfix, fun other hOther => ?_⟩
      have hRest : rest <:+: line ++ '\n' :: rest :=
        ((List.suffix_cons _ _).trans (List.suffix_append _ _)).isInfix
      exact (ih other hOther).trans hRest
  | @returnFeed line rest _ noFeed _ ih =>
      refine List.forall_mem_cons.mpr ⟨(List.prefix_append _ _).isInfix, fun other hOther => ?_⟩
      have hRest : rest <:+: line ++ '\r' :: '\n' :: rest :=
        ((List.suffix_append ['\r', '\n'] rest).trans (List.suffix_append _ _)).isInfix
      exact (ih other hOther).trans hRest

/-- The lines of a text with a word in its first line: the word stands in this line, and **the
others stand behind it**. -/
theorem exists_lines_append {start after : List Char} (hNil : word ≠ [])
    (hFeed : '\n' ∉ start ++ word) (hLast : word.getLast? ≠ some '\r') :
    ∃ first rest, lines (start ++ word ++ after) = first :: rest ∧ word <:+: first ∧
      ∀ line ∈ rest, line <:+: after := by
  by_cases hAfter : '\n' ∈ after
  · obtain ⟨end', others, rfl, hEnd⟩ := List.eq_append_cons_of_mem hAfter
    have hFirst : '\n' ∉ start ++ word ++ end' := by
      rw [List.mem_append]
      exact fun h => h.elim hFeed hEnd
    refine ⟨dropReturn (start ++ word ++ end'), lines others, ?_, ?_, fun line hLine => ?_⟩
    · rw [← List.append_assoc, lines_append_feed hFirst]
    · rw [infix_dropReturn_iff hLast]
      exact List.infix_append start word end'
    · have hOthers : others <:+: end' ++ '\n' :: others :=
        ((List.suffix_cons _ _).trans (List.suffix_append _ _)).isInfix
      exact ((hasLines_lines others).infix_of_mem line hLine).trans hOthers
  · have hAll : '\n' ∉ start ++ word ++ after := by
      rw [List.mem_append]
      exact fun h => h.elim hFeed hAfter
    refine ⟨start ++ word ++ after, [], ?_, List.infix_append start word after, nofun⟩
    rw [lines_of_not_mem hAll, if_neg (by simp [hNil])]

/-- A word without line breaks **stands in a text** when it stands in one of the lines. -/
theorem HasLines.occursIn_iff {ls : List (List Char)} (h : HasLines text ls) (hNil : word ≠ [])
    (hFeed : '\n' ∉ word) (hLast : word.getLast? ≠ some '\r') :
    occursIn word text = true ↔ ∃ line ∈ ls, occursIn word line = true := by
  simp only [Text.occursIn_iff]
  induction h with
  | nil => simp [hNil]
  | last noFeed ne_nil => simp
  | feed noFeed noReturn _ ih =>
      rw [infix_append_cons_iff hFeed, ih, List.exists_mem_cons_iff]
  | @returnFeed line rest _ noFeed _ ih =>
      have hSplit : line ++ '\r' :: '\n' :: rest = (line ++ ['\r']) ++ '\n' :: rest := by simp
      rw [hSplit, infix_append_cons_iff hFeed, infix_concat_iff_of_getLast? hLast, ih,
        List.exists_mem_cons_iff]

/-! ### Padding -/

/-- A line **pads** a text: it has white space before and behind it, or none. -/
def Pads (line piece : List Char) : Prop :=
  ∃ before after : List Char, (∀ c ∈ before, isBlank c = true) ∧ (∀ c ∈ after, isBlank c = true) ∧
    line = before ++ piece ++ after

/-- A text is what trimming leaves of it, padded. -/
theorem pads_trim (line : List Char) : Pads line (trim line) := by
  refine ⟨line.takeWhile isBlank, (line.dropWhile isBlank).rtakeWhile isBlank,
    fun c => List.mem_takeWhile_imp, fun c => List.mem_rtakeWhile_imp, ?_⟩
  have hEnd : trim line = (line.dropWhile isBlank).rdropWhile isBlank := rfl
  rw [hEnd, List.append_assoc, List.rdropWhile_append_rtakeWhile, List.takeWhile_append_dropWhile]

/-- Padding hides no word that begins and ends with other characters than white space. -/
theorem Pads.infix_iff {piece : List Char} (h : Pads line piece)
    (hHead : ∀ c ∈ word.head?, isBlank c = false) (hLast : ∀ c ∈ word.getLast?, isBlank c = false) :
    word <:+: line ↔ word <:+: piece := by
  obtain ⟨before, after, hBefore, hAfter, rfl⟩ := h
  rw [infix_append_iff_of_getLast?, infix_append_iff_of_head?]
  · intro c hc hFirst
    exact absurd ((hBefore c hc).symm.trans (hHead c hFirst)) (by simp)
  · intro c hc hEnd
    exact absurd ((hAfter c hc).symm.trans (hLast c hEnd)) (by simp)

/-- Nothing is trimmed in front of a character that is not white space. -/
theorem dropWhile_isBlank_append {piece : List Char} (hNil : piece ≠ [])
    (h : ∀ c ∈ piece, isBlank c = false) (rest : List Char) :
    (piece ++ rest).dropWhile isBlank = piece ++ rest := by
  cases piece with
  | nil => exact absurd rfl hNil
  | cons c piece =>
      have hFirst := h c List.mem_cons_self
      simp [hFirst]

/-- **Trimming leaves what was padded**, if that has no white space itself. -/
theorem trim_eq_of_pads {piece : List Char} (h : Pads line piece)
    (hPiece : ∀ c ∈ piece, isBlank c = false) : trim line = piece := by
  obtain ⟨before, after, hBefore, hAfter, rfl⟩ := h
  rw [trim, List.append_assoc, List.dropWhile_append_of_pos hBefore]
  by_cases hNil : piece = []
  · subst hNil
    have hDrop : (after ++ []).dropWhile isBlank = [] := List.dropWhile_append_of_pos hAfter
    rw [List.append_nil] at hDrop
    rw [List.nil_append, hDrop]
    rfl
  · have hReversed : ∀ c ∈ after.reverse, isBlank c = true := by
      simpa using hAfter
    have hEnd : (piece.reverse ++ []).dropWhile isBlank = piece.reverse ++ [] :=
      dropWhile_isBlank_append (by simpa using hNil) (by simpa using hPiece) []
    rw [List.append_nil] at hEnd
    rw [dropWhile_isBlank_append hNil hPiece, trimEnd, List.reverse_append,
      List.dropWhile_append_of_pos hReversed, hEnd, List.reverse_reverse]

end RemoteAttestation.Text
