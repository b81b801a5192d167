import Mathlib.Data.List.Basic
import RemoteAttestation.Text.Split

/-!
# Joined Text

Text that is split at a mark is known by its pieces: they hold no mark, and with the marks
between them they are the text. So splitting undoes joining, as long as nothing that is joined
holds a mark itself.

## Main results

* `Text.splitFirst?_eq_some_iff`: the text before and after the first mark.
* `Text.splitFirst?_eq_none_iff`: text without a mark.
* `Text.splitAll_eq_iff`: the pieces between all marks.
-/

namespace RemoteAttestation.Text

/-- **The first mark** has no mark before it. -/
theorem splitFirst?_eq_some_iff {mark : Char} {text before after : List Char} :
    splitFirst? mark text = some (before, after) ↔
      text = before ++ mark :: after ∧ mark ∉ before := by
  induction text generalizing before with
  | nil => simp [splitFirst?]
  | cons c rest ih =>
      rw [splitFirst?]
      by_cases hMark : c = mark
      · rw [if_pos hMark, Option.some.injEq, Prod.mk.injEq]
        cases before with
        | nil => simp [hMark]
        | cons first before =>
            refine iff_of_false (fun h => List.cons_ne_nil _ _ h.1.symm) ?_
            rintro ⟨hText, hBefore⟩
            obtain ⟨rfl, -⟩ := List.cons.inj hText
            exact hBefore (hMark ▸ List.mem_cons_self)
      · rw [if_neg hMark, Option.map_eq_some_iff]
        constructor
        · rintro ⟨⟨front, back⟩, hRest, hEq⟩
          obtain ⟨rfl, rfl⟩ := Prod.mk.inj hEq
          obtain ⟨rfl, hFront⟩ := ih.mp hRest
          exact ⟨rfl, List.not_mem_cons_of_ne_of_not_mem (Ne.symm hMark) hFront⟩
        · rintro ⟨hText, hBefore⟩
          cases before with
          | nil => exact absurd (List.cons.inj hText).1 hMark
          | cons first before =>
              obtain ⟨rfl, hRest⟩ := List.cons.inj hText
              have hFront := (List.ne_and_not_mem_of_not_mem_cons hBefore).2
              exact ⟨(before, after), ih.mpr ⟨hRest, hFront⟩, rfl⟩

/-- A text without a mark is **not split**. -/
theorem splitFirst?_eq_none_iff {mark : Char} {text : List Char} :
    splitFirst? mark text = none ↔ mark ∉ text := by
  constructor
  · intro h hMark
    obtain ⟨before, after, hText, hBefore⟩ := List.eq_append_cons_of_mem hMark
    rw [splitFirst?_eq_some_iff.mpr ⟨hText, hBefore⟩] at h
    cases h
  · intro h
    cases hSplit : splitFirst? mark text with
    | none => rfl
    | some parts =>
        obtain ⟨rfl, -⟩ := splitFirst?_eq_some_iff.mp hSplit
        exact absurd (List.mem_append_right _ List.mem_cons_self) h


/-- A text is split at all marks as lists are split. -/
theorem splitAll_eq_splitOn (mark : Char) (text : List Char) :
    splitAll mark text = text.splitOn mark := by
  induction text with
  | nil => rfl
  | cons c rest ih =>
      rw [splitAll, ih, List.splitOn_cons_eq_if_modifyHead]
      by_cases hMark : c = mark
      · simp [hMark]
      · have hNe := List.splitOn_ne_nil mark rest
        cases hRest : rest.splitOn mark with
        | nil => exact absurd hRest hNe
        | cons piece pieces => simp [hMark]

/-- There is no mark in a piece. -/
theorem not_mem_of_mem_splitAll {mark : Char} {text piece : List Char}
    (h : piece ∈ splitAll mark text) : mark ∉ piece := by
  induction text generalizing piece with
  | nil =>
      obtain rfl : piece = [] := List.mem_singleton.mp h
      exact List.not_mem_nil
  | cons c rest ih =>
      rw [splitAll] at h
      split at h
      · rcases List.mem_cons.mp h with rfl | hRest
        · exact List.not_mem_nil
        · exact ih hRest
      · rename_i hMark
        split at h
        · obtain rfl : piece = [c] := List.mem_singleton.mp h
          exact fun hMem => hMark (List.mem_singleton.mp hMem).symm
        · rename_i first pieces hRest
          rw [hRest] at ih
          rcases List.mem_cons.mp h with rfl | hLater
          · intro hMem
            rcases List.mem_cons.mp hMem with hEq | hMem
            · exact hMark hEq.symm
            · exact ih List.mem_cons_self hMem
          · exact ih (List.mem_cons_of_mem first hLater)

/-- **The pieces between the marks** hold no mark, and joined by marks they are the text. -/
theorem splitAll_eq_iff {mark : Char} {text : List Char} {pieces : List (List Char)} :
    splitAll mark text = pieces ↔
      text = [mark].intercalate pieces ∧ pieces ≠ [] ∧ ∀ piece ∈ pieces, mark ∉ piece := by
  constructor
  · rintro rfl
    refine ⟨?_, ?_, fun piece => not_mem_of_mem_splitAll⟩
    · rw [splitAll_eq_splitOn, List.intercalate_splitOn]
    · rw [splitAll_eq_splitOn]
      exact List.splitOn_ne_nil mark text
  · rintro ⟨rfl, hNe, hPieces⟩
    rw [splitAll_eq_splitOn, List.splitOn_intercalate mark hPieces hNe]

end RemoteAttestation.Text
