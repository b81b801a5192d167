import RemoteAttestation.Proofs.Pcr.SelectionList
import RemoteAttestation.Proofs.Wire.Reading

/-!
# Selection Lists That Are Read Back

Writing and reading a list of selections have different limits. Any list is written: banks
without number, algorithms that are no hashes, and bitmaps of up to 32 octets, as many as the
highest index needs. Reading has a TPM in mind, which has at most sixteen banks, all of them of
hashes, with PCRs below `pcrCount`.

So a written list is read back just when a TPM can have its banks. Any other list is refused
for what it says, at the count or at the first entry that no bank can have
(`SelectionList.Refused`). It is never taken for a list that was cut short, since each length
in it is written in full, and never for another list.

## Main results

* `SelectionList.refuses_readEntry`: the fault of an entry that no bank can have.
* `SelectionList.refuses_readEntries`: the fault of entries is that of the first such entry.
* `SelectionList.refuses_read`: the fault of a list.
* `SelectionList.read_write`: what becomes of a list that is written and read.
-/

namespace RemoteAttestation.SelectionList

/-- The fault with which a selection that no bank can have is **refused** as an entry. -/
inductive EntryRefused (s : Selection) : SelectionListFault → Prop where
  /-- The bank's algorithm is not a hash. -/
  | unknownBank (notHash : s.bank.isHash = false) : EntryRefused s (.unknownBank s.bank.id)
  /-- The highest index needs more than four octets. -/
  | bitmapTooLong {index : UInt8} (isHash : s.bank.isHash = true)
      (highest : s.indices.getLast? = some index) (le : 32 ≤ index.toNat) :
      EntryRefused s (.bitmapTooLong (UInt8.ofNat (index.toNat / 8 + 1)))
  /-- Four octets are enough for the indices, but one is not below the number of PCRs. The
  fault names the lowest of those. -/
  | outOfRange {index : UInt8} (isHash : s.bank.isHash = true)
      (lt : ∀ other ∈ s.indices, other.toNat < 32) (mem : index ∈ s.indices)
      (le : pcrCount ≤ index) (lowest : ∀ other ∈ s.indices, pcrCount ≤ other → index ≤ other) :
      EntryRefused s (.outOfRange s.bank index)

/-- The fault with which selections are **refused** as entries: that of the first one that no
bank can have. -/
inductive EntriesRefused : List Selection → SelectionListFault → Prop where
  /-- The first selection is refused. -/
  | here {s : Selection} {rest : List Selection} {fault : SelectionListFault}
      (refused : EntryRefused s fault) : EntriesRefused (s :: rest) fault
  /-- The first selection is one that a bank can have, and one behind it is refused. -/
  | behind {s : Selection} {rest : List Selection} {fault : SelectionListFault}
      (inBank : s.InBank) (refused : EntriesRefused rest fault) : EntriesRefused (s :: rest) fault

/-- The fault with which a **list** is refused. -/
inductive Refused (selections : List Selection) : SelectionListFault → Prop where
  /-- There are more than sixteen banks. -/
  | tooManyBanks (lt : 16 < selections.length) :
      Refused selections (.tooManyBanks (UInt32.ofNat selections.length))
  /-- There are not too many, but one is refused. -/
  | entries {fault : SelectionListFault} (length_le : selections.length ≤ 16)
      (refused : EntriesRefused selections fault) : Refused selections fault

/-! ### Entries -/

/-- A bitmap of more than four octets is there for a high index. -/
theorem exists_getLast?_of_lt_bitmapSize {s : Selection} (h : 4 < s.bitmapSize) :
    ∃ index, s.indices.getLast? = some index ∧ 32 ≤ index.toNat ∧
      s.bitmapSize = index.toNat / 8 + 1 := by
  rw [Selection.bitmapSize] at h ⊢
  cases hLast : s.indices.getLast? with
  | none =>
      rw [hLast] at h
      exact absurd h (by decide)
  | some index =>
      rw [hLast, Option.map_some, Option.getD_some] at h
      refine ⟨index, rfl, by omega, ?_⟩
      rw [Option.map_some, Option.getD_some]
      omega

/-- The first index out of range is the **lowest** one, since indices ascend. -/
theorem le_of_find?_pcrCount {s : Selection} {index : UInt8}
    (h : s.indices.find? (pcrCount ≤ ·) = some index) :
    ∀ other ∈ s.indices, pcrCount ≤ other → index ≤ other := by
  obtain ⟨-, front, behind, hIndices, hFront⟩ := List.find?_eq_some_iff_append.mp h
  intro other hOther hRange
  rw [hIndices] at hOther
  rcases List.mem_append.mp hOther with hEarlier | hLater
  · exact absurd hRange (by simpa using hFront other hEarlier)
  · rcases List.mem_cons.mp hLater with rfl | hBehind
    · exact UInt8.le_refl other
    · have hAscending := s.ascending
      rw [hIndices, List.pairwise_append] at hAscending
      exact UInt8.le_of_lt ((List.pairwise_cons.mp hAscending.2.1).1 other hBehind)

/-- Four octets have a bit for each index below 32, and for no other. -/
theorem toNat_lt_of_bitmapSize_le {s : Selection} (h : s.bitmapSize ≤ 4) :
    ∀ index ∈ s.indices, index.toNat < 32 := by
  intro index hIndex
  have hOctet := Selection.div_lt_bitmapSize hIndex
  omega

/-- An entry of a selection that **no bank can have** is refused for what it says. -/
theorem refuses_readEntry {s : Selection} (h : ¬ s.InBank) :
    Reader.Refuses (EntryRefused s) readEntry (writeEntry s) := by
  rw [writeEntry, List.append_assoc]
  refine ((Reader.accepts_u16.reads rfl).orFail _).refuses_bind ?_
  cases hHash : s.bank.isHash with
  | false =>
      have hNone : (Algorithm.ofId? s.bank.id).filter Algorithm.isHash = none := by
        rw [Algorithm.ofId?_id, Option.filter_some, hHash]
        rfl
      rw [hNone]
      exact Reader.refuses_throw (.unknownBank hHash) _
  | true =>
      have hWidth : (UInt8.ofNat s.toBitmap.length).toNat = s.bitmapSize := by
        rw [s.toNat_width, s.length_toBitmap]
      rw [Algorithm.filter_isHash_eq_some_iff.mpr ⟨rfl, hHash⟩]
      refine ((Reader.accepts_u8.reads rfl).orFail _).refuses_bind ?_
      by_cases hSize : 4 < s.bitmapSize
      · obtain ⟨index, hLast, hLe, hEq⟩ := exists_getLast?_of_lt_bitmapSize hSize
        refine Reader.refuses_guard (UInt8.lt_iff_toNat_lt.mpr (hWidth ▸ hSize)) ?_ _
        rw [s.length_toBitmap, hEq]
        exact .bitmapTooLong hHash hLast hLe
      · refine Reader.Refuses.guard _ (mt UInt8.lt_iff_toNat_lt.mp (hWidth ▸ hSize)) ?_
        refine Reader.Reads.refuses_bind_nil (((Reader.accepts_take _).reads
          ⟨rfl, s.toNat_width.symm⟩).orFail _) ?_
        rw [s.ofBitmap_toBitmap]
        dsimp only
        cases hFind : s.indices.find? (pcrCount ≤ ·) with
        | none => exact absurd ⟨hHash, find?_pcrCount_eq_none_iff.mp hFind⟩ h
        | some index =>
            have hRange : pcrCount ≤ index := by simpa using List.find?_some hFind
            exact Reader.refuses_throw (EntryRefused.outOfRange hHash
              (toNat_lt_of_bitmapSize_le (Nat.not_lt.mp hSize)) (List.mem_of_find?_eq_some hFind)
              hRange (le_of_find?_pcrCount hFind)) _

/-- Entries of which one is of a selection that no bank can have are refused for **the first**
of these. -/
theorem refuses_readEntries {selections : List Selection} (h : ¬ ∀ s ∈ selections, s.InBank) :
    Reader.Refuses (EntriesRefused selections) (readEntries selections.length)
      (selections.flatMap writeEntry) := by
  induction selections with
  | nil => exact absurd (fun s hMem => by cases hMem) h
  | cons s rest ih =>
      rw [List.flatMap_cons]
      by_cases hFirst : s.InBank
      · have hRest : ¬ ∀ s ∈ rest, s.InBank :=
          fun hAll => h (List.forall_mem_cons.mpr ⟨hFirst, hAll⟩)
        have hBehind := (ih hRest).imp fun _ hFault => EntriesRefused.behind hFirst hFault
        refine (accepts_readEntry.reads (entryForm_writeEntry hFirst)).refuses_bind ?_
        exact fun tail offset => (hBehind tail offset).bind _
      · exact ((refuses_readEntry hFirst).imp fun _ hFault => .here hFault).bind _ _

/-! ### Lists -/

/-- A list that no TPM can have is refused for what it says. -/
theorem refuses_read {selections : List Selection} (hLength : selections.length < 2 ^ 32)
    (h : ¬ (selections.length ≤ 16 ∧ ∀ s ∈ selections, s.InBank)) :
    Reader.Refuses (Refused selections) read (write selections) := by
  have hCount : (UInt32.ofNat selections.length).toNat = selections.length :=
    UInt32.toNat_ofNat_of_lt' hLength
  have hWritten : Bytes.ofNat 4 selections.length = Wire.u32 (UInt32.ofNat selections.length) := by
    rw [Wire.u32, hCount]
  rw [write, hWritten]
  refine ((Reader.accepts_u32.reads rfl).orFail _).refuses_bind ?_
  by_cases hMany : 16 < selections.length
  · refine Reader.refuses_guard (UInt32.lt_iff_toNat_lt.mpr ?_) (.tooManyBanks hMany) _
    rwa [hCount]
  · have hFew : selections.length ≤ 16 := Nat.not_lt.mp hMany
    refine Reader.Refuses.guard _ (mt UInt32.lt_iff_toNat_lt.mp ?_) ?_
    · rwa [hCount]
    · rw [hCount]
      exact (refuses_readEntries fun hAll => h ⟨hFew, hAll⟩).imp fun _ hFault =>
        .entries hFew hFault

/-- An entry is refused for what it says, **not for its end**. -/
theorem EntryRefused.ne_underflow {s : Selection} {fault : SelectionListFault}
    (h : EntryRefused s fault) (cut : Underflow) : fault ≠ .underflow cut := by
  rintro rfl
  cases h

/-- Entries that are refused are not cut short. -/
theorem EntriesRefused.ne_underflow {selections : List Selection} {fault : SelectionListFault}
    (h : EntriesRefused selections fault) (cut : Underflow) : fault ≠ .underflow cut := by
  induction h with
  | here hRefused => exact hRefused.ne_underflow cut
  | behind _ _ ih => exact ih

theorem Refused.ne_underflow {selections : List Selection} {fault : SelectionListFault}
    (h : Refused selections fault) (cut : Underflow) : fault ≠ .underflow cut := by
  rintro rfl
  cases h with
  | entries _ hRefused => exact hRefused.ne_underflow cut rfl

/-- **A written list is read back** just when a TPM can have its banks. What follows it is
left. Any other list is refused for what it says. -/
theorem read_write {selections : List Selection} (hLength : selections.length < 2 ^ 32)
    (tail : Bytes) (offset : Nat) :
    (read ⟨write selections ++ tail, offset⟩
        = .ok selections ⟨tail, offset + (write selections).length⟩ ↔
      selections.length ≤ 16 ∧ ∀ s ∈ selections, s.InBank) ∧
    (¬ (selections.length ≤ 16 ∧ ∀ s ∈ selections, s.InBank) →
      ∃ fault c, read ⟨write selections ++ tail, offset⟩ = .error fault c ∧
        Refused selections fault ∧ ∀ cut, fault ≠ .underflow cut) := by
  have hRefused (h : ¬ (selections.length ≤ 16 ∧ ∀ s ∈ selections, s.InBank)) :
      ∃ fault c, read ⟨write selections ++ tail, offset⟩ = .error fault c ∧
        Refused selections fault :=
    refuses_read hLength h tail offset
  refine ⟨⟨fun hRead => ?_, fun ⟨hFew, hBanks⟩ => ?_⟩, fun h => ?_⟩
  · by_contra h
    obtain ⟨fault, c, hError, -⟩ := hRefused h
    rw [hRead] at hError
    cases hError
  · exact accepts_read.reads (form_write hFew hBanks) tail offset
  · obtain ⟨fault, c, hError, hFault⟩ := hRefused h
    exact ⟨fault, c, hError, hFault, hFault.ne_underflow⟩

namespace Borders

/-- The lowest and the highest index of a bank, and a bank of which nothing is selected. -/
def inside : List Selection :=
  [.ofIndices .sha256 [0, 23], .ofIndices .sha1 []]

/-- The lowest index that no bank has, behind a bank that may be read. -/
def outside : List Selection :=
  [.ofIndices .sha1 [], .ofIndices .sha256 [0, 24]]

/-- The selections up to the border are of their banks. -/
theorem inBank_inside : ∀ s ∈ inside, s.InBank := by
  intro s hMem
  rcases List.mem_pair.mp hMem with rfl | rfl
  · exact ⟨rfl, by decide +kernel⟩
  · exact ⟨rfl, by decide +kernel⟩

/-- One of those beyond it is not, for its highest index. -/
theorem not_inBank_outside : ¬ ∀ s ∈ outside, s.InBank := by
  intro h
  have hBank := h (.ofIndices .sha256 [0, 24]) (by simp [outside])
  exact absurd (hBank.lt_pcrCount 24 (Selection.mem_ofIndices_iff.mpr (by decide))) (by decide)

end Borders

open Borders in
/-- The indices up to the border are read back, with an octet that follows. One above it is
not. -/
theorem read_write_of_borders :
    (inside.length < 2 ^ 32 ∧ read ⟨write inside ++ [0xff], 0⟩
        = .ok inside ⟨[0xff], 0 + (write inside).length⟩) ∧
      outside.length < 2 ^ 32 ∧ ∃ fault c, read ⟨write outside ++ [0xff], 0⟩ = .error fault c ∧
        Refused outside fault := by
  have hInside : inside.length < 2 ^ 32 := by decide
  have hOutside : outside.length < 2 ^ 32 := by decide
  refine ⟨⟨hInside, (read_write hInside [0xff] 0).1.mpr ⟨by decide, inBank_inside⟩⟩, hOutside, ?_⟩
  obtain ⟨fault, c, hError, hRefused, -⟩ :=
    (read_write hOutside [0xff] 0).2 fun h => not_inBank_outside h.2
  exact ⟨fault, c, hError, hRefused⟩

/-- Four octets are read up to their last bit, and the next index makes them five. -/
example :
    read.parse (write [.ofIndices .sha256 [31]]) = .error (.outOfRange .sha256 31) ∧
      read.parse (write [.ofIndices .sha256 [32]]) = .error (.bitmapTooLong 5) := by
  decide +kernel

end RemoteAttestation.SelectionList
