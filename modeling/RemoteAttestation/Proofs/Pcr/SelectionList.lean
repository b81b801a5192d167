import RemoteAttestation.Pcr.SelectionList
import RemoteAttestation.Pcr.Values
import RemoteAttestation.Proofs.Algorithm
import RemoteAttestation.Proofs.Pcr.Bitmap
import RemoteAttestation.Proofs.Wire.Grammar

/-!
# The Grammar of Selection Lists

A list of selections on the wire is a count and then an entry for each selection. What is
written has a bitmap as long as `Selection.toBitmap` makes it, but what is read may have any
bitmap of at most four octets, so the grammar leaves the bitmap open: an entry stands for the
selection that its bitmap describes.

Written lists belong to the grammar as long as a TPM could have such banks: hashes, indices
below `pcrCount` (`Selection.InBank`), and at most sixteen of them.

## Main results

* `SelectionList.accepts_read`: the reader accepts the grammar.
* `SelectionList.form_write`: written lists belong to it.
-/

namespace RemoteAttestation

namespace SelectionList

/-- The form of an **entry**: the identifier of the bank, the length of the bitmap, and a
bitmap that describes the selection. -/
def EntryForm : Grammar Selection := fun b s =>
  ∃ bitmap : Bytes, bitmap.length ≤ 4 ∧ s = .ofBitmap s.bank bitmap ∧ s.InBank ∧
    b = Wire.u16 s.bank.id ++ Wire.u8 (UInt8.ofNat bitmap.length) ++ bitmap

/-- The form of **entries**, one after the other. -/
def EntriesForm : Grammar (List Selection) := fun b selections =>
  ∃ entries : List Bytes, List.Forall₂ EntryForm entries selections ∧ b = entries.flatten

/-- The form of a **list**: the number of its entries, and the entries. -/
def Form : Grammar (List Selection) := fun b selections =>
  ∃ entries : Bytes, selections.length ≤ 16 ∧ EntriesForm entries selections ∧
    b = Bytes.ofNat 4 selections.length ++ entries

/-! ### Reading -/

/-- No index is out of range just when all are in it. -/
theorem find?_pcrCount_eq_none_iff {indices : List UInt8} :
    indices.find? (pcrCount ≤ ·) = none ↔ ∀ index ∈ indices, index < pcrCount := by
  simp only [List.find?_eq_none, decide_eq_true_eq, UInt8.not_le]

/-- The selection of a bitmap, if its indices are in range. -/
theorem accepts_inRange (s : Selection) : Reader.Accepts
    (match s.indices.find? (pcrCount ≤ ·) with
      | some index => throw (.outOfRange s.bank index)
      | none => return s : Reader SelectionListFault Selection)
    (Grammar.guarded (∀ index ∈ s.indices, index < pcrCount) (Grammar.nothing s)) := by
  rw [← find?_pcrCount_eq_none_iff]
  cases s.indices.find? (pcrCount ≤ ·) with
  | some index => exact (Reader.accepts_throw _).congr fun b t => by simp [Grammar.guarded]
  | none => exact (Reader.accepts_pure s).congr fun b t => by simp [Grammar.guarded]

/-- The reader of an entry accepts the form of one. -/
theorem accepts_readEntry : Reader.Accepts readEntry EntryForm := by
  refine Reader.Accepts.congr (Reader.Accepts.bind (Reader.accepts_u16.orFail _)
    (k := fun id b s => id = s.bank.id ∧ ∃ bitmap : Bytes, bitmap.length ≤ 4 ∧
      s = .ofBitmap s.bank bitmap ∧ s.InBank ∧
      b = Wire.u8 (UInt8.ofNat bitmap.length) ++ bitmap) fun id => ?_) fun b s => ?_
  · cases hBank : (Algorithm.ofId? id).filter Algorithm.isHash with
    | none =>
        refine (Reader.accepts_throw _).congr fun b s => ⟨False.elim, ?_⟩
        rintro ⟨hId, bitmap, -, -, hInBank, -⟩
        rw [Algorithm.filter_isHash_eq_some_iff.mpr ⟨hId, hInBank.isHash⟩] at hBank
        cases hBank
    | some bank =>
        obtain ⟨rfl, hHash⟩ := Algorithm.filter_isHash_eq_some_iff.mp hBank
        refine Reader.Accepts.congr (Reader.Accepts.bind (Reader.accepts_u8.orFail _) fun size =>
          Reader.Accepts.guard _ <| Reader.Accepts.bind ((Reader.accepts_take _).orFail _)
            fun bitmap => accepts_inRange (.ofBitmap bank bitmap)) fun b s => ?_
        constructor
        · rintro ⟨size, _, _, rfl, rfl, hSize, _, bitmap, _, rfl, ⟨rfl, hLength⟩, hLt, rfl, rfl⟩
          have hLe : size.toNat ≤ 4 := UInt8.le_iff_toNat_le.mp (UInt8.not_lt.mp hSize)
          refine ⟨rfl, bitmap, hLength ▸ hLe, rfl, ⟨hHash, hLt⟩, ?_⟩
          rw [List.append_nil, hLength, UInt8.ofNat_toNat]
        · rintro ⟨hId, bitmap, hLe, hS, hInBank, rfl⟩
          obtain rfl : bank = s.bank := Slot.bank_eq_of_id_eq hId
          have hLength : (UInt8.ofNat bitmap.length).toNat = bitmap.length :=
            UInt8.toNat_ofNat_of_lt' (Nat.lt_of_le_of_lt hLe (by decide))
          refine ⟨UInt8.ofNat bitmap.length, _, bitmap, rfl, rfl, ?_, bitmap, bitmap, [],
            (List.append_nil _).symm, ⟨rfl, hLength.symm⟩, hS ▸ hInBank.lt_pcrCount, rfl, hS⟩
          rw [UInt8.lt_iff_toNat_lt, hLength]
          exact Nat.not_lt.mpr hLe
  · constructor
    · rintro ⟨id, _, _, rfl, rfl, rfl, bitmap, hLe, hS, hInBank, rfl⟩
      exact ⟨bitmap, hLe, hS, hInBank, (List.append_assoc _ _ _).symm⟩
    · rintro ⟨bitmap, hLe, hS, hInBank, rfl⟩
      exact ⟨s.bank.id, _, _, List.append_assoc _ _ _, rfl, rfl, bitmap, hLe, hS, hInBank, rfl⟩

/-- No entry is written as nothing. -/
theorem entriesForm_nil_iff {b : Bytes} : EntriesForm b [] ↔ b = [] := by
  simp only [EntriesForm, List.forall₂_nil_right_iff, exists_eq_left, List.flatten_nil]

/-- Entries are written one behind the other. -/
theorem entriesForm_cons_iff {b : Bytes} {s : Selection} {rest : List Selection} :
    EntriesForm b (s :: rest) ↔
      ∃ first others, b = first ++ others ∧ EntryForm first s ∧ EntriesForm others rest := by
  constructor
  · rintro ⟨_, hForms, rfl⟩
    cases hForms with
    | cons hFirst hOthers => exact ⟨_, _, rfl, hFirst, _, hOthers, rfl⟩
  · rintro ⟨first, _, rfl, hFirst, entries, hOthers, rfl⟩
    exact ⟨first :: entries, .cons hFirst hOthers, rfl⟩

/-- The reader of some entries accepts as many as it is told to read. -/
theorem accepts_readEntries (n : Nat) :
    Reader.Accepts (readEntries n) fun b selections =>
      selections.length = n ∧ EntriesForm b selections := by
  induction n with
  | zero =>
      refine (Reader.accepts_pure []).congr fun b selections => ?_
      constructor
      · rintro ⟨rfl, rfl⟩
        exact ⟨rfl, entriesForm_nil_iff.mpr rfl⟩
      · rintro ⟨hLength, hForm⟩
        obtain rfl := List.length_eq_zero_iff.mp hLength
        exact ⟨entriesForm_nil_iff.mp hForm, rfl⟩
  | succ n ih =>
      refine Reader.Accepts.congr (Reader.Accepts.bind accepts_readEntry fun s =>
        Reader.Accepts.bind ih fun rest => Reader.accepts_pure (s :: rest)) fun b selections => ?_
      constructor
      · rintro ⟨s, first, _, rfl, hEntry, rest, others, _, rfl, ⟨rfl, hOthers⟩, rfl, rfl⟩
        rw [List.append_nil, entriesForm_cons_iff]
        exact ⟨rfl, first, others, rfl, hEntry, hOthers⟩
      · rintro ⟨hLength, hForm⟩
        cases selections with
        | nil => cases hLength
        | cons s rest =>
            obtain ⟨first, others, rfl, hEntry, hOthers⟩ := entriesForm_cons_iff.mp hForm
            exact ⟨s, first, others, rfl, hEntry, rest, others, [], (List.append_nil _).symm,
              ⟨Nat.succ.inj hLength, hOthers⟩, rfl, rfl⟩

/-- **The reader of lists accepts their grammar.** -/
theorem accepts_read : Reader.Accepts read Form := by
  refine Reader.Accepts.congr (Reader.Accepts.bind (Reader.accepts_u32.orFail _) fun count =>
    Reader.Accepts.guard _ (accepts_readEntries count.toNat)) fun b selections => ?_
  constructor
  · rintro ⟨count, _, entries, rfl, rfl, hCount, hLength, hEntries⟩
    have hLe : count.toNat ≤ 16 := UInt32.le_iff_toNat_le.mp (UInt32.not_lt.mp hCount)
    exact ⟨entries, hLength ▸ hLe, hEntries, by rw [hLength, Wire.u32]⟩
  · rintro ⟨entries, hLe, hEntries, rfl⟩
    have hToNat : (UInt32.ofNat selections.length).toNat = selections.length :=
      UInt32.toNat_ofNat_of_lt' (Nat.lt_of_le_of_lt hLe (by decide))
    refine ⟨UInt32.ofNat selections.length, _, entries, rfl, ?_, ?_, hToNat.symm, hEntries⟩
    · rw [Grammar.written, Wire.u32, hToNat]
    · rw [UInt32.lt_iff_toNat_lt, hToNat]
      exact Nat.not_lt.mpr hLe

/-! ### Writing -/

/-- The bitmap of a selection in range has three octets. -/
theorem bitmapSize_eq {s : Selection} (h : s.InBank) : s.bitmapSize = 3 := by
  rw [Selection.bitmapSize]
  cases hLast : s.indices.getLast? with
  | none => rfl
  | some index =>
      have hLt : index.toNat < 24 :=
        UInt8.lt_iff_toNat_lt.mp (h.lt_pcrCount index (List.mem_of_getLast? hLast))
      rw [Option.map_some, Option.getD_some]
      omega

/-- What is written for a selection in a bank has the form of an entry. -/
theorem entryForm_writeEntry {s : Selection} (h : s.InBank) : EntryForm (writeEntry s) s := by
  refine ⟨s.toBitmap, ?_, s.ofBitmap_toBitmap.symm, h, rfl⟩
  rw [Selection.length_toBitmap, bitmapSize_eq h]
  decide

/-- So have the entries of several selections, one behind the other. -/
theorem entriesForm_flatMap {selections : List Selection} (h : ∀ s ∈ selections, s.InBank) :
    EntriesForm (selections.flatMap writeEntry) selections := by
  induction selections with
  | nil => exact entriesForm_nil_iff.mpr rfl
  | cons s rest ih =>
      obtain ⟨hFirst, hRest⟩ := List.forall_mem_cons.mp h
      exact entriesForm_cons_iff.mpr
        ⟨_, _, List.flatMap_cons, entryForm_writeEntry hFirst, ih hRest⟩

/-- **A written list belongs to the grammar** if a TPM can have its banks. -/
theorem form_write {selections : List Selection} (hLength : selections.length ≤ 16)
    (h : ∀ s ∈ selections, s.InBank) : Form (write selections) selections :=
  ⟨_, hLength, entriesForm_flatMap h, rfl⟩

end SelectionList

end RemoteAttestation
