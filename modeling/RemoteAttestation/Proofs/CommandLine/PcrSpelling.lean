import RemoteAttestation.Proofs.CommandLine.PcrFile

/-!
# Files That Spell a Slot Twice

An expected value that is in the file ought to be compared with something. Names of banks may
be written in either case and with hyphens, and indices with leading zeros or a sign, so
different members of a file may be about one slot. Reading them takes each value to the place
of the one before it, without a word, and what a file keeps of its spellings is what is spelled
last.

So an expectation is lost just when the file has a later one for the same slot that differs
from it, and a file without such contradictions keeps all that it says.

## Main results

* `PcrValues.ofText_eq_ok_iff`: the values in a file.
* `PcrValues.sized_of_ofText`: the values in a file have the sizes of their banks' digests.
* `PcrValues.ofText_spellings`: which files are read, as what, and when they keep all they spell.
* `PcrValues.ofText_not_keeping`: a file that does not keep all it spells.
-/

namespace RemoteAttestation

namespace PcrValues

/-- **The values in a file** are those of its table. -/
theorem ofText_eq_ok_iff {text : String} {v : PcrValues} :
    ofText text = .ok v ↔
      ∃ table, PcrTable.ofText? text = some table ∧ PcrTable.values table = .ok v := by
  rw [ofText]
  cases PcrTable.ofText? text with
  | none => simp
  | some table => simp

/-- The values in a file have the **sizes** of their banks' digests. -/
theorem sized_of_ofText {text : String} {v : PcrValues} (h : ofText text = .ok v) : v.Sized := by
  obtain ⟨table, -, hValues⟩ := ofText_eq_ok_iff.mp h
  intro slot value hGet
  obtain ⟨name, index, spelled, -, hDenotes, -⟩ :=
    (PcrTable.get?_eq_some_iff_of_values hValues).mp hGet
  exact hDenotes.size

/-- **What a file keeps of its spellings.** A file is read when the names of its banks are
those of hashes and all that it spells denotes something, and its values are those that are
spelled last. Each spelling has its value in its slot just when no two spellings have different
values in one. -/
theorem ofText_spellings (text : String) (v : PcrValues) :
    (ofText text = .ok v ↔ ∃ table, PcrTable.ofText? text = some table ∧ table.Readable ∧
      ∀ slot value, v.get? slot = some value ↔ table.SpelledLast slot value) ∧
    ∀ table, PcrTable.ofText? text = some table → ofText text = .ok v →
      ((∀ name index spelled slot value, table.Spells name index spelled →
          PcrTable.Denotes name index spelled slot value → v.get? slot = some value) ↔
        ∀ slot value value', table.Holds slot value → table.Holds slot value' →
          value = value') := by
  constructor
  · rw [ofText_eq_ok_iff]
    exact exists_congr fun table => and_congr_right fun _ => PcrTable.values_eq_ok_iff
  · intro table hTable hText
    obtain ⟨other, hOther, hValues⟩ := ofText_eq_ok_iff.mp hText
    obtain rfl : table = other := Option.some.inj (hTable.symm.trans hOther)
    rw [← PcrTable.keeps_iff hValues]
    constructor
    · rintro hKeeps slot value ⟨name, index, spelled, hSpells, hDenotes⟩
      exact hKeeps name index spelled slot value hSpells hDenotes
    · intro hKeeps name index spelled slot value hSpells hDenotes
      exact hKeeps slot value ⟨name, index, spelled, hSpells, hDenotes⟩

end PcrValues

/-! ### A file with two names for one bank -/

namespace TwoNames

/-- A file that spells the name of one bank in two ways, with different values for PCR 0. -/
def text : String :=
  "\x7b\"SHA-1\": \x7b\"0\": \"1111111111111111111111111111111111111111\"\x7d, " ++
    "\"sha1\": \x7b\"0\": \"2222222222222222222222222222222222222222\"\x7d\x7d"

/-- The slot that both are about. -/
def slot : Slot :=
  ⟨.sha1, 0⟩

/-- What a table spells for the index zero of a bank. -/
def spelled (table : PcrTable) (name : String) : Option String :=
  (Std.ExtTreeMap.get? table name).bind fun bank => bank["0"]?

/-- What is looked up in a table for the PCR zero is spelled there. -/
theorem spells_of_spelled {table : PcrTable} {name spelling : String}
    (h : spelled table name = some spelling) : table.Spells name "0" spelling :=
  Option.bind_eq_some_iff.mp h

/-- The text is read as a table with both spellings, and only the second value is left of
it. -/
theorem read : (PcrTable.ofText? text).map (fun table => (spelled table "SHA-1",
      spelled table "sha1", (PcrTable.values table).toOption.map (·.get? slot))) =
    some (some "1111111111111111111111111111111111111111",
      some "2222222222222222222222222222222222222222", some (some (List.replicate 20 0x22))) := by
  decide +kernel

/-- The first spelling denotes the first value. -/
theorem denotes : PcrTable.Denotes "SHA-1" "0" "1111111111111111111111111111111111111111" slot
    (List.replicate 20 0x11) :=
  ⟨by decide +kernel, by decide +kernel, by decide +kernel, by decide⟩

theorem denotes' : PcrTable.Denotes "sha1" "0" "2222222222222222222222222222222222222222" slot
    (List.replicate 20 0x22) :=
  ⟨by decide +kernel, by decide +kernel, by decide +kernel, by decide⟩

/-- The file is read, and the later spelling counts. -/
theorem exists_ofText : ∃ table v, PcrTable.ofText? text = some table ∧
    PcrValues.ofText text = .ok v ∧
    table.Spells "SHA-1" "0" "1111111111111111111111111111111111111111" ∧
    table.Spells "sha1" "0" "2222222222222222222222222222222222222222" ∧
    v.get? slot = some (List.replicate 20 0x22) := by
  obtain ⟨table, hTable, hRead⟩ := Option.map_eq_some_iff.mp read
  obtain ⟨hFirst, hRead⟩ := Prod.mk.inj hRead
  obtain ⟨hSecond, hRead⟩ := Prod.mk.inj hRead
  cases hValues : PcrTable.values table with
  | error fault => rw [hValues] at hRead; cases hRead
  | ok v =>
      rw [hValues] at hRead
      exact ⟨table, v, hTable, PcrValues.ofText_eq_ok_iff.mpr ⟨table, hTable, hValues⟩,
        spells_of_spelled hFirst, spells_of_spelled hSecond, Option.some.inj hRead⟩

end TwoNames

/-- A file with two spellings of one slot is read, but it does not keep both. -/
theorem PcrValues.ofText_spellings_of_two : ∃ table v,
    PcrTable.ofText? TwoNames.text = some table ∧ ofText TwoNames.text = .ok v ∧
      ¬ ∀ name index spelled slot value, table.Spells name index spelled →
        PcrTable.Denotes name index spelled slot value → v.get? slot = some value := by
  obtain ⟨table, v, hTable, hText, hFirst, hSecond, -⟩ := TwoNames.exists_ofText
  refine ⟨table, v, hTable, hText, fun hKeeps => ?_⟩
  have hSame := ((ofText_spellings TwoNames.text v).2 table hTable hText).mp hKeeps _ _ _
    ⟨_, _, _, hFirst, TwoNames.denotes⟩ ⟨_, _, _, hSecond, TwoNames.denotes'⟩
  exact absurd hSame (by decide)

/-- An expected value in a file may be **lost**. -/
theorem PcrValues.ofText_not_keeping :
    ¬ ∀ (text : String) (v : PcrValues) (table : PcrTable), ofText text = .ok v →
      PcrTable.ofText? text = some table → ∀ name index spelled slot value,
        table.Spells name index spelled → PcrTable.Denotes name index spelled slot value →
          v.get? slot = some value := by
  intro h
  obtain ⟨table, v, hTable, hText, hFirst, -, hGet⟩ := TwoNames.exists_ofText
  have hLost := h _ v table hText hTable _ _ _ _ _ hFirst TwoNames.denotes
  exact absurd (Option.some.inj (hGet.symm.trans hLost)) (by decide)

end RemoteAttestation
