import RemoteAttestation.Proofs.Pcr.SelectionList

/-!
# Spellings of Selection Lists

A list of selections can be spelled in several ways, because a bitmap may have octets that are
not needed. An entry of a list as it is spelled is a bank with the octets of its bitmap
(`SelectionEntry`), and bit `n` of octet `b` stands for index `8 * b + n`. Everything here is
said about these bits, without the reader.

Two spellings of one selection agree bit by bit where both have octets, so the longer bitmap
only adds zeros. With the length that is written, there is one spelling.

## Main results

* `SelectionList.form_iff`: a list on the wire is a spelling of its selections.
* `SelectionEntry.Describes.paddedAlike`: what two spellings of a selection can differ in.
* `SelectionEntry.Describes.write_eq`: the spelling with three octets is the one that is written.
-/

namespace RemoteAttestation

namespace Bytes

/-- Bit `n` of octet `b` of a bitmap is **set**. -/
def HasBit (bitmap : Bytes) (b n : Nat) : Prop :=
  ∃ octet, bitmap[b]? = some octet ∧ octet.toNat.testBit n = true

/-- Two strings are **padded alike** when one is the other with zeros behind it. -/
def PaddedAlike (x y : Bytes) : Prop :=
  ∃ k, y = x ++ List.replicate k 0 ∨ x = y ++ List.replicate k 0

/-! ### Bits -/

/-- An octet has eight bits. -/
theorem testBit_lt_eight {octet : UInt8} {n : Nat} (h : octet.toNat.testBit n = true) : n < 8 := by
  refine Nat.lt_of_not_le fun hLe => ?_
  have hLt : octet.toNat < 2 ^ n :=
    Nat.lt_of_lt_of_le octet.toNat_lt (Nat.pow_le_pow_right (by decide) hLe)
  rw [Nat.testBit_lt_two_pow hLt] at h
  cases h

/-- Bits of an octet are numbered below eight. -/
theorem HasBit.lt_eight {bitmap : Bytes} {b n : Nat} (h : HasBit bitmap b n) : n < 8 := by
  obtain ⟨octet, -, hBit⟩ := h
  exact testBit_lt_eight hBit

/-- A bit that is set is in the bitmap. -/
theorem HasBit.lt_length {bitmap : Bytes} {b n : Nat} (h : HasBit bitmap b n) :
    b < bitmap.length := by
  obtain ⟨octet, hOctet, -⟩ := h
  exact (List.getElem?_eq_some_iff.mp hOctet).1

/-- The bits at a place are those of the octet there. -/
theorem hasBit_getElem_iff {bitmap : Bytes} {b n : Nat} (hb : b < bitmap.length) :
    HasBit bitmap b n ↔ bitmap[b].toNat.testBit n = true := by
  rw [HasBit, List.getElem?_eq_getElem hb]
  simp only [Option.some.injEq, exists_eq_left']

/-- Where both strings have an octet, the same bits make the same octet. -/
theorem getElem_eq_of_hasBit_iff {x y : Bytes} (h : ∀ b n, HasBit x b n ↔ HasBit y b n) {b : Nat}
    (hx : b < x.length) (hy : b < y.length) : x[b] = y[b] := by
  refine UInt8.toNat_inj.mp (Nat.eq_of_testBit_eq fun n => ?_)
  rw [Bool.eq_iff_iff, ← hasBit_getElem_iff hx, ← hasBit_getElem_iff hy]
  exact h b n

/-- Where only one string has an octet, the octet has no bits. -/
theorem getElem_eq_zero_of_hasBit_iff {x y : Bytes} (h : ∀ b n, HasBit x b n ↔ HasBit y b n)
    {b : Nat} (hx : x.length ≤ b) (hy : b < y.length) : y[b] = 0 := by
  refine UInt8.toNat_inj.mp (Nat.eq_of_testBit_eq fun n => ?_)
  rw [UInt8.toNat_zero, Nat.zero_testBit, ← Bool.not_eq_true, ← hasBit_getElem_iff hy, ← h b n]
  exact fun hBit => Nat.not_lt.mpr hx hBit.lt_length

/-- A string with the same bits as a shorter one is the shorter one with zeros behind it. -/
theorem eq_append_replicate_of_hasBit_iff {x y : Bytes} (h : ∀ b n, HasBit x b n ↔ HasBit y b n)
    (hLength : x.length ≤ y.length) :
    y = x ++ List.replicate (y.length - x.length) 0 := by
  refine List.ext_getElem ?_ fun b hy _ => ?_
  · rw [List.length_append, List.length_replicate]
    omega
  · by_cases hx : b < x.length
    · rw [List.getElem_append_left hx, getElem_eq_of_hasBit_iff h hx hy]
    · rw [List.getElem_append_right (Nat.not_lt.mp hx), List.getElem_replicate]
      exact getElem_eq_zero_of_hasBit_iff h (Nat.not_lt.mp hx) hy

/-- **Strings with the same bits** are padded alike. -/
theorem paddedAlike_of_hasBit_iff {x y : Bytes} (h : ∀ b n, HasBit x b n ↔ HasBit y b n) :
    PaddedAlike x y := by
  rcases Nat.le_total x.length y.length with hLe | hLe
  · exact ⟨_, .inl (eq_append_replicate_of_hasBit_iff h hLe)⟩
  · exact ⟨_, .inr (eq_append_replicate_of_hasBit_iff (fun b n => (h b n).symm) hLe)⟩

/-- Octets that differ in the zeros at their ends are the same if they are equally long. -/
theorem PaddedAlike.eq_of_length_eq {x y : Bytes} (h : PaddedAlike x y)
    (hLength : x.length = y.length) : x = y := by
  have hNone : ∀ {k : Nat} {z : Bytes}, z.length = (z ++ List.replicate k 0).length → k = 0 := by
    intro k z hk
    rw [List.length_append, List.length_replicate] at hk
    omega
  obtain ⟨k, rfl | rfl⟩ := h
  · rw [hNone hLength, List.replicate_zero, List.append_nil]
  · rw [hNone hLength.symm, List.replicate_zero, List.append_nil]

end Bytes

/-- The bits of a bitmap that has no more octets than there are indices for are the indices of
its selection. -/
theorem Selection.mem_ofBitmap_iff_hasBit {bank : Algorithm} {bitmap : Bytes}
    (hLength : bitmap.length ≤ 32) {index : UInt8} :
    index ∈ (ofBitmap bank bitmap).indices ↔
      ∃ b n, bitmap.HasBit b n ∧ index.toNat = 8 * b + n := by
  rw [mem_ofBitmap_iff]
  constructor
  · rintro ⟨b, octet, hOctet, n, hn, hBit, rfl⟩
    have hb := (List.getElem?_eq_some_iff.mp hOctet).1
    exact ⟨b, n, ⟨octet, hOctet, hBit⟩, UInt8.toNat_ofNat_of_lt' (by simp only [UInt8.size]; omega)⟩
  · rintro ⟨b, n, ⟨octet, hOctet, hBit⟩, hNumber⟩
    exact ⟨b, octet, hOctet, n, Bytes.testBit_lt_eight hBit, hBit, by
      rw [← hNumber, UInt8.ofNat_toNat]⟩

/-! ### Entries -/

/-- An **entry** of a list of selections as it is spelled. -/
structure SelectionEntry where
  /-- The algorithm of the bank. -/
  bank : Algorithm
  /-- The octets of the bitmap. -/
  bitmap : Bytes
  /-- The bank's algorithm is a hash. -/
  bank_isHash : bank.isHash = true
  /-- There are at most four octets. -/
  bitmap_length_le : bitmap.length ≤ 4
  /-- No bit from the twenty-fourth on is set. -/
  bit_lt : ∀ b n, bitmap.HasBit b n → 8 * b + n < 24

namespace SelectionEntry

/-- The octets of an entry: the identifier of the bank, the length of the bitmap, the
bitmap. -/
def write (e : SelectionEntry) : Bytes :=
  Wire.u16 e.bank.id ++ Wire.u8 (UInt8.ofNat e.bitmap.length) ++ e.bitmap

/-- An entry **describes** a selection of its bank when its bits are the indices: bit `n` of
octet `b` stands for index `8 * b + n`. -/
def Describes (e : SelectionEntry) (s : Selection) : Prop :=
  s.bank = e.bank ∧ ∀ index, index ∈ s.indices ↔ ∃ b n, e.bitmap.HasBit b n ∧
    index.toNat = 8 * b + n

/-- Two entries are **padded alike** when they are of one bank and their bitmaps are. -/
def PaddedAlike (e e' : SelectionEntry) : Prop :=
  e.bank = e'.bank ∧ e.bitmap.PaddedAlike e'.bitmap

/-- The bits of an entry are known from the selection. -/
theorem Describes.hasBit_iff {e : SelectionEntry} {s : Selection} (h : e.Describes s) {b n : Nat} :
    e.bitmap.HasBit b n ↔ n < 8 ∧ 8 * b + n < 24 ∧ UInt8.ofNat (8 * b + n) ∈ s.indices := by
  have hToNat : 8 * b + n < 24 → (UInt8.ofNat (8 * b + n)).toNat = 8 * b + n := fun hLt =>
    UInt8.toNat_ofNat_of_lt' (Nat.lt_trans hLt (by decide))
  constructor
  · intro hBit
    have hLt := e.bit_lt b n hBit
    exact ⟨hBit.lt_eight, hLt, (h.2 _).mpr ⟨b, n, hBit, hToNat hLt⟩⟩
  · rintro ⟨hn, hLt, hMem⟩
    obtain ⟨b', n', hBit, hNumber⟩ := (h.2 _).mp hMem
    have hn' := hBit.lt_eight
    rw [hToNat hLt] at hNumber
    obtain ⟨rfl, rfl⟩ : b = b' ∧ n = n' := by omega
    exact hBit

/-- **Two spellings of a selection** differ in the zeros behind their bitmaps. -/
theorem Describes.paddedAlike {e e' : SelectionEntry} {s : Selection} (h : e.Describes s)
    (h' : e'.Describes s) : e.PaddedAlike e' :=
  ⟨h.1.symm.trans h'.1, Bytes.paddedAlike_of_hasBit_iff fun _ _ =>
    h.hasBit_iff.trans h'.hasBit_iff.symm⟩

/-- What an entry describes is a selection that some bank can have. -/
theorem Describes.inBank {e : SelectionEntry} {s : Selection} (h : e.Describes s) : s.InBank where
  isHash := h.1 ▸ e.bank_isHash
  lt_pcrCount index hIndex := by
    obtain ⟨b, n, hBit, hNumber⟩ := (h.2 index).mp hIndex
    rw [UInt8.lt_iff_toNat_lt, hNumber]
    exact e.bit_lt b n hBit

/-- An entry describes just the selection of its bitmap. -/
theorem describes_iff_eq_ofBitmap {e : SelectionEntry} {s : Selection} :
    e.Describes s ↔ s = .ofBitmap e.bank e.bitmap := by
  have hLength : e.bitmap.length ≤ 32 := Nat.le_trans e.bitmap_length_le (by decide)
  constructor
  · rintro ⟨hBank, hIndices⟩
    exact Selection.ext_mem hBank fun index =>
      (hIndices index).trans (Selection.mem_ofBitmap_iff_hasBit hLength).symm
  · rintro rfl
    exact ⟨rfl, fun index => Selection.mem_ofBitmap_iff_hasBit hLength⟩

/-- The entry with a bitmap whose selection some bank can have. -/
def ofBitmap (bank : Algorithm) (bitmap : Bytes) (hLength : bitmap.length ≤ 4)
    (h : (Selection.ofBitmap bank bitmap).InBank) : SelectionEntry where
  bank := bank
  bitmap := bitmap
  bank_isHash := h.isHash
  bitmap_length_le := hLength
  bit_lt b n hBit := by
    have hb := hBit.lt_length
    have hn := hBit.lt_eight
    have hToNat : (UInt8.ofNat (8 * b + n)).toNat = 8 * b + n :=
      UInt8.toNat_ofNat_of_lt' (by simp only [UInt8.size]; omega)
    have hMem : UInt8.ofNat (8 * b + n) ∈ (Selection.ofBitmap bank bitmap).indices :=
      (Selection.mem_ofBitmap_iff_hasBit (by omega)).mpr ⟨b, n, hBit, hToNat⟩
    have hLt := UInt8.lt_iff_toNat_lt.mp (h.lt_pcrCount _ hMem)
    rwa [hToNat] at hLt

/-- A selection that some bank can have is described by an entry with the bitmap that is
written for it. -/
theorem exists_describes {s : Selection} (h : s.InBank) :
    ∃ e : SelectionEntry, e.bitmap = s.toBitmap ∧ e.Describes s := by
  have hLength : s.toBitmap.length ≤ 4 := by
    rw [Selection.length_toBitmap, SelectionList.bitmapSize_eq h]
    decide
  exact ⟨ofBitmap s.bank s.toBitmap hLength (s.ofBitmap_toBitmap.symm ▸ h), rfl,
    describes_iff_eq_ofBitmap.mpr s.ofBitmap_toBitmap.symm⟩

/-- **The spelling with three octets** is the one that is written. -/
theorem Describes.write_eq {e : SelectionEntry} {s : Selection} (h : e.Describes s)
    (hLength : e.bitmap.length = 3) : e.write = SelectionList.writeEntry s := by
  have hWritten : s.toBitmap = e.bitmap := by
    obtain ⟨e', hBitmap, h'⟩ := exists_describes h.inBank
    refine hBitmap ▸ (h'.paddedAlike h).2.eq_of_length_eq ?_
    rw [hBitmap, hLength, Selection.length_toBitmap, SelectionList.bitmapSize_eq h.inBank]
  rw [write, SelectionList.writeEntry, hWritten, h.1]

end SelectionEntry

/-! ### Lists -/

namespace SelectionList

/-- Entries **spell** selections when they describe them one by one. -/
def Spells (entries : List SelectionEntry) (selections : List Selection) : Prop :=
  List.Forall₂ SelectionEntry.Describes entries selections

/-- An entry has the form of a selection when it is written with **fields that describe the
selection**. -/
theorem entryForm_iff {b : Bytes} {s : Selection} :
    EntryForm b s ↔ ∃ e : SelectionEntry, e.Describes s ∧ b = e.write := by
  constructor
  · rintro ⟨bitmap, hLength, hS, hInBank, rfl⟩
    exact ⟨.ofBitmap s.bank bitmap hLength (hS ▸ hInBank),
      SelectionEntry.describes_iff_eq_ofBitmap.mpr hS, rfl⟩
  · rintro ⟨e, hDescribes, rfl⟩
    refine ⟨e.bitmap, e.bitmap_length_le, ?_, hDescribes.inBank, ?_⟩
    · rw [hDescribes.1]
      exact SelectionEntry.describes_iff_eq_ofBitmap.mp hDescribes
    · rw [hDescribes.1, SelectionEntry.write]

/-- So have several entries, one by one. -/
theorem entriesForm_iff {b : Bytes} {selections : List Selection} :
    EntriesForm b selections ↔
      ∃ entries, Spells entries selections ∧ b = entries.flatMap SelectionEntry.write := by
  induction selections generalizing b with
  | nil => simp [entriesForm_nil_iff, Spells]
  | cons s rest ih =>
      rw [entriesForm_cons_iff]
      constructor
      · rintro ⟨first, others, rfl, hFirst, hOthers⟩
        obtain ⟨e, hDescribes, rfl⟩ := entryForm_iff.mp hFirst
        obtain ⟨entries, hSpells, rfl⟩ := ih.mp hOthers
        exact ⟨e :: entries, .cons hDescribes hSpells, List.flatMap_cons.symm⟩
      · rintro ⟨_, hSpells, rfl⟩
        cases hSpells with
        | cons hDescribes hSpells =>
            exact ⟨_, _, List.flatMap_cons, entryForm_iff.mpr ⟨_, hDescribes, rfl⟩,
              ih.mpr ⟨_, hSpells, rfl⟩⟩

/-- **A list on the wire** is a count and a spelling of its selections. -/
theorem form_iff {b : Bytes} {selections : List Selection} :
    Form b selections ↔
      ∃ entries, entries.length ≤ 16 ∧ Spells entries selections ∧
        b = Bytes.ofNat 4 entries.length ++ entries.flatMap SelectionEntry.write := by
  constructor
  · rintro ⟨_, hLength, hEntries, rfl⟩
    obtain ⟨entries, hSpells, rfl⟩ := entriesForm_iff.mp hEntries
    rw [← hSpells.length_eq] at hLength ⊢
    exact ⟨entries, hLength, hSpells, rfl⟩
  · rintro ⟨entries, hLength, hSpells, rfl⟩
    rw [hSpells.length_eq] at hLength ⊢
    exact ⟨_, hLength, entriesForm_iff.mpr ⟨entries, hSpells, rfl⟩, rfl⟩

/-- Two spellings of the same selections differ in the zeros behind the bitmaps. -/
theorem Spells.paddedAlike {entries entries' : List SelectionEntry} {selections : List Selection}
    (h : Spells entries selections) (h' : Spells entries' selections) :
    List.Forall₂ SelectionEntry.PaddedAlike entries entries' := by
  induction h generalizing entries' with
  | nil =>
      cases h'
      exact .nil
  | cons hDescribes _ ih =>
      cases h' with
      | cons hDescribes' hSpells' => exact .cons (hDescribes.paddedAlike hDescribes') (ih hSpells')

/-- A spelling whose bitmaps have three octets is the one that is written. -/
theorem Spells.flatMap_write_eq {entries : List SelectionEntry} {selections : List Selection}
    (h : Spells entries selections) (hLength : ∀ e ∈ entries, e.bitmap.length = 3) :
    entries.flatMap SelectionEntry.write = selections.flatMap writeEntry := by
  induction h with
  | nil => rfl
  | cons hDescribes _ ih =>
      obtain ⟨hFirst, hRest⟩ := List.forall_mem_cons.mp hLength
      rw [List.flatMap_cons, List.flatMap_cons, hDescribes.write_eq hFirst, ih hRest]

end SelectionList

end RemoteAttestation
