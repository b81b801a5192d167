import RemoteAttestation.Proofs.CommandLine.PcrSpelling

/-!
# The Normal Form of a File of PCR Values

A file may spell banks and indices as it likes, but what is kept of it are values in slots, and
these have one table with canonical spellings. The names in the table are in the order of
texts, where `10` is before `2`, and the values are in the order of numbers. Neither order
shows in what is read back, because each slot has just one place in the table.

So tables and values are two forms of one thing as long as the values have the sizes of their
banks' digests (`PcrValues.Sized`), and these are the values that files can have at all.
Reading a file, writing what was read and reading it again is the same as reading it once.

## Main results

* `PcrValues.values_table_eq_ok_iff`: a table of values is read as these values or not at all.
* `PcrValues.exists_ofText_iff`: the values that files have.
* `PcrValues.ofText_table`: writing values and reading them are inverse.
-/

namespace RemoteAttestation

namespace PcrValues

/-- **A table of values** is read just when these have the right sizes, and as no others. -/
theorem values_table_eq_ok_iff {v w : PcrValues} :
    PcrTable.values v.table = .ok w ↔ v.Sized ∧ w = v := by
  constructor
  · intro h
    have hSized := sized_of_values_eq_ok h
    rw [values_table hSized] at h
    exact ⟨hSized, (Except.ok.inj h).symm⟩
  · rintro ⟨hSized, rfl⟩
    exact values_table hSized

/-- What is read from a text with the table of some values. The text may be any: members in
another order, and white space between them. -/
theorem ofText_eq_ok_iff_of_table {text : String} {v w : PcrValues}
    (h : PcrTable.ofText? text = some v.table) : ofText text = .ok w ↔ v.Sized ∧ w = v := by
  rw [ofText_eq_ok_iff, h, ← values_table_eq_ok_iff]
  simp only [Option.some.injEq, exists_eq_left']

/-- The file of some values has their table. -/
theorem ofText?_file (v : PcrValues) : PcrTable.ofText? v.file = some v.table := by
  have hText := PcrTable.ofText?_pretty v.table "" (.inl rfl)
  rwa [String.append_empty] at hText

/-- **The values that files have** are those of the right sizes. -/
theorem exists_ofText_iff {v : PcrValues} : (∃ text, ofText text = .ok v) ↔ v.Sized := by
  constructor
  · rintro ⟨text, hText⟩
    exact sized_of_ofText hText
  · intro hSized
    exact ⟨v.file, (ofText_eq_ok_iff_of_table v.ofText?_file).mpr ⟨hSized, rfl⟩⟩

/-- **Writing values and reading them are inverse.** A text with the table of some values is
read as these values if they have the right sizes, and is refused if not. Such a text is the
file that is written for them. What is read from any text has the right sizes, so it is read
again from each text with its table. -/
theorem ofText_table (v : PcrValues) :
    (∀ text, PcrTable.ofText? text = some v.table →
      ∀ w, ofText text = .ok w ↔ v.Sized ∧ w = v) ∧
    PcrTable.ofText? v.file = some v.table ∧
    ((∃ text, ofText text = .ok v) ↔ v.Sized) ∧
    ∀ text again, ofText text = .ok v → PcrTable.ofText? again = some v.table →
      ofText again = .ok v := by
  refine ⟨fun text hTable w => ofText_eq_ok_iff_of_table hTable, v.ofText?_file, exists_ofText_iff,
    fun text again hText hTable => ?_⟩
  exact (ofText_eq_ok_iff_of_table hTable).mpr ⟨sized_of_ofText hText, rfl⟩

end PcrValues

/-! ### Numbers and texts in different orders -/

namespace TwoOrders

/-- Values at the indices two and ten of a bank, and one of a bank whose name is before. -/
def state : PcrValues :=
  ((PcrValues.empty.insert ⟨.sha256, 10⟩ (List.replicate 32 0x10)).insert ⟨.sha256, 2⟩
    (List.replicate 32 0x02)).insert ⟨.sha1, 0⟩ (List.replicate 20 0xab)

/-- Every value has the size of its bank. -/
theorem sized : state.Sized :=
  ((PcrValues.sized_empty.insert rfl).insert rfl).insert rfl

end TwoOrders

open TwoOrders in
/-- Values that are written in another order than they are kept in are read back, and what is
read from a file with two names for one bank is read again from what is written for it. -/
theorem PcrValues.ofText_table_of_two_orders :
    (state.Sized ∧ ofText state.file = .ok state) ∧
      ∃ v, ofText TwoNames.text = .ok v ∧ PcrTable.ofText? v.file = some v.table ∧
        ofText v.file = .ok v := by
  obtain ⟨hTexts, hFile, -⟩ := ofText_table state
  refine ⟨⟨sized, (hTexts _ hFile _).mpr ⟨sized, rfl⟩⟩, ?_⟩
  obtain ⟨-, v, -, hText, -⟩ := TwoNames.exists_ofText
  obtain ⟨-, hFile, -, hAgain⟩ := ofText_table v
  exact ⟨v, hText, hFile, hAgain _ _ hText hFile⟩

end RemoteAttestation
