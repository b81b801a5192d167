import Mathlib.Data.List.Sort
import RemoteAttestation.Pcr.Selection

/-!
# Selections as Sets

The indices of a selection are in strict order, so a selection is known when its bank and the
set of its indices are. What an operator asks for is a list of indices, and the selection that
is made of it has just these indices, provided that there is one, that none is listed twice,
and that a bank can have them (`Selection.InBank`).

## Main results

* `Selection.ext_mem`: a selection is the set of its indices.
* `Selection.make_eq_ok_iff`: what is made of a list of indices, and when.
* `Selection.make_eq_error_iff`: the first fault of a list of which nothing is made.
* `Selection.valid_iff`: the selections that are made of some list.
-/

namespace RemoteAttestation

/-- A selection that some **bank** can have: one of a hash, with indices in range. -/
structure Selection.InBank (s : Selection) : Prop where
  /-- The bank's algorithm is a hash. -/
  isHash : s.bank.isHash = true
  /-- Each index is below the number of PCRs. -/
  lt_pcrCount : ∀ index ∈ s.indices, index < pcrCount

namespace Selection

/-- Two selections of a bank with the same indices are the same. -/
theorem ext_mem {s t : Selection} (hBank : s.bank = t.bank)
    (hMem : ∀ index, index ∈ s.indices ↔ index ∈ t.indices) : s = t := by
  have hIndices : s.indices = t.indices :=
    s.ascending.eq_of_mem_iff t.ascending (fun {index} => hMem index)
  cases s
  cases t
  cases hBank
  cases hIndices
  rfl

/-- The list of all indices leaves none out. -/
theorem mem_allIndices (index : UInt8) : index ∈ allIndices := by
  rw [allIndices, List.mem_map]
  exact ⟨index.toNat, List.mem_range.mpr index.toNat_lt, UInt8.ofNat_toNat⟩

/-- A selection has the indices that it is made of, whatever their order. -/
@[simp] theorem mem_ofIndices_iff {bank : Algorithm} {indices : List UInt8} {index : UInt8} :
    index ∈ (ofIndices bank indices).indices ↔ index ∈ indices := by
  simp [ofIndices, mem_allIndices]

/-- A selection is that of its indices. -/
theorem ofIndices_indices (s : Selection) : ofIndices s.bank s.indices = s :=
  ext_mem rfl fun _ => mem_ofIndices_iff

/-- The indices of a selection ascend, so none is repeated. -/
theorem nodup_indices (s : Selection) : s.indices.Nodup :=
  s.ascending.imp UInt8.ne_of_lt

/-- There are no more selected indices than indices. -/
theorem size_le (s : Selection) : s.size ≤ 256 := by
  have hLength :=
    (List.subperm_of_subset s.nodup_indices fun index _ => mem_allIndices index).length_le
  rwa [allIndices, List.length_map, List.length_range] at hLength

/-! ### Checked selections -/

/-- The **fault of an index** that follows others: it is out of range, or it repeats one of
them. -/
def FaultOf (bank : Algorithm) (earlier : List UInt8) (index : UInt8) (fault : SelectionFault) :
    Prop :=
  pcrCount ≤ index ∧ fault = .outOfRange bank index ∨
    index < pcrCount ∧ index ∈ earlier ∧ fault = .repeatedIndex bank index

/-- Nothing is wrong with some indices when the first is in range and new, and nothing is wrong
with the rest behind it. -/
theorem firstFault?_cons_eq_none_iff {bank : Algorithm} {earlier rest : List UInt8}
    {index : UInt8} :
    firstFault? bank earlier (index :: rest) = none ↔
      (index < pcrCount ∧ index ∉ earlier) ∧ firstFault? bank (index :: earlier) rest = none := by
  rw [firstFault?, ← UInt8.not_le]
  by_cases hRange : pcrCount ≤ index
  · simp [hRange]
  by_cases hEarlier : index ∈ earlier
  · simp [hRange, hEarlier]
  · simp [hRange, hEarlier]

/-- **The fault of the first index** is found, and if it has none, the one that follows. -/
theorem firstFault?_cons_eq_some_iff {bank : Algorithm} {earlier rest : List UInt8} {index : UInt8}
    {fault : SelectionFault} :
    firstFault? bank earlier (index :: rest) = some fault ↔
      FaultOf bank earlier index fault ∨
        (index < pcrCount ∧ index ∉ earlier) ∧
          firstFault? bank (index :: earlier) rest = some fault := by
  rw [firstFault?, FaultOf, ← UInt8.not_le]
  by_cases hRange : pcrCount ≤ index
  · simp [hRange, eq_comm]
  by_cases hEarlier : index ∈ earlier
  · simp [hRange, hEarlier, eq_comm]
  · simp [hRange, hEarlier]

/-- No fault is found in indices that are in range and different, from each other and from
those before them. -/
theorem firstFault?_eq_none_iff {bank : Algorithm} {earlier indices : List UInt8} :
    firstFault? bank earlier indices = none ↔
      (∀ index ∈ indices, index < pcrCount) ∧ indices.Nodup ∧
        ∀ index ∈ indices, index ∉ earlier := by
  induction indices generalizing earlier with
  | nil => simp [firstFault?]
  | cons index rest ih =>
      rw [firstFault?_cons_eq_none_iff, ih]
      simp only [List.mem_cons, forall_eq_or_imp, List.nodup_cons, not_or]
      constructor
      · rintro ⟨⟨hLt, hEarlier⟩, hRanges, hNodup, hFresh⟩
        exact ⟨⟨hLt, hRanges⟩, ⟨fun hMem => (hFresh index hMem).1 rfl, hNodup⟩, hEarlier,
          fun other hMem => (hFresh other hMem).2⟩
      · rintro ⟨⟨hLt, hRanges⟩, ⟨hNew, hNodup⟩, hEarlier, hFresh⟩
        exact ⟨⟨hLt, hEarlier⟩, hRanges, hNodup, fun other hMem =>
          ⟨fun hEq => hNew (hEq ▸ hMem), hFresh other hMem⟩⟩

/-- A fault that is found is that of an index behind others without fault. Induction on the
list: an index that is passed joins those that were before the list. -/
theorem firstFault?_eq_some_iff {bank : Algorithm} {earlier indices : List UInt8}
    {fault : SelectionFault} :
    firstFault? bank earlier indices = some fault ↔
      ∃ before index after, indices = before ++ index :: after ∧
        firstFault? bank earlier before = none ∧
        FaultOf bank (before.reverse ++ earlier) index fault := by
  induction indices generalizing earlier with
  | nil => simp [firstFault?]
  | cons first rest ih =>
      rw [firstFault?_cons_eq_some_iff, ih]
      constructor
      · rintro (hFault | ⟨hFirst, before, index, after, rfl, hNone, hFault⟩)
        · exact ⟨[], first, rest, rfl, rfl, hFault⟩
        · refine ⟨first :: before, index, after, rfl,
            firstFault?_cons_eq_none_iff.mpr ⟨hFirst, hNone⟩, ?_⟩
          rwa [List.reverse_cons, List.append_assoc]
      · rintro ⟨before, index, after, hEq, hNone, hFault⟩
        cases before with
        | nil =>
            obtain ⟨rfl, rfl⟩ := List.cons.inj hEq
            exact .inl hFault
        | cons passed before =>
            obtain ⟨rfl, rfl⟩ := List.cons.inj hEq
            obtain ⟨hFirst, hNone⟩ := firstFault?_cons_eq_none_iff.mp hNone
            rw [List.reverse_cons, List.append_assoc] at hFault
            exact .inr ⟨hFirst, before, index, after, rfl, hNone, hFault⟩

/-- The **first fault** of a list of indices, in the order of the list: before the index that
has it all are in range and different. -/
def FirstFault (bank : Algorithm) (indices : List UInt8) (fault : SelectionFault) : Prop :=
  ∃ before index after, indices = before ++ index :: after ∧
    (∀ earlier ∈ before, earlier < pcrCount) ∧ before.Nodup ∧ FaultOf bank before index fault

/-- **Why a list of indices of a hash is refused.** -/
theorem make_eq_error_iff {bank : Algorithm} {indices : List UInt8} {fault : SelectionFault}
    (hHash : bank.isHash = true) (hNe : indices ≠ []) :
    make bank indices = .error fault ↔ FirstFault bank indices fault := by
  have hFirst : make bank indices = .error fault ↔ firstFault? bank [] indices = some fault := by
    cases hFault : firstFault? bank [] indices with
    | none => simp [make, hHash, hNe, hFault]
    | some found => simp [make, hHash, hNe, hFault]
  rw [hFirst, firstFault?_eq_some_iff]
  simp only [firstFault?_eq_none_iff, FirstFault, FaultOf, List.append_nil, List.mem_reverse,
    List.not_mem_nil, not_false_eq_true, implies_true, and_true, and_assoc]

/-- **What is made of a list of indices** is the set of them, in a bank that can have them. -/
theorem make_eq_ok_iff {bank : Algorithm} {indices : List UInt8} {s : Selection} :
    make bank indices = .ok s ↔
      s.bank = bank ∧ (∀ index, index ∈ s.indices ↔ index ∈ indices) ∧ s.InBank ∧
        indices ≠ [] ∧ indices.Nodup := by
  have hSet : ∀ index, index ∈ (ofIndices bank indices).indices ↔ index ∈ indices :=
    fun index => mem_ofIndices_iff
  rw [make]
  constructor
  · intro h
    split at h
    · cases h
    rename_i hHash
    rw [Bool.not_eq_true', Bool.not_eq_false] at hHash
    split at h
    · cases h
    rename_i hNe
    split at h
    · cases h
    rename_i hFault
    obtain ⟨hRange, hNodup, -⟩ := firstFault?_eq_none_iff.mp hFault
    obtain rfl := Except.ok.inj h
    refine ⟨rfl, hSet, ⟨hHash, fun index hIndex => ?_⟩, by simpa using hNe, hNodup⟩
    exact hRange index ((hSet index).mp hIndex)
  · rintro ⟨rfl, hMem, hInBank, hNe, hNodup⟩
    have hFault : firstFault? s.bank [] indices = none :=
      firstFault?_eq_none_iff.mpr ⟨fun index hIndex =>
        hInBank.lt_pcrCount index ((hMem index).mpr hIndex), hNodup, by simp⟩
    have hEq : ofIndices s.bank indices = s :=
      ext_mem rfl fun index => (hSet index).trans (hMem index).symm
    simp [hInBank.isHash, hNe, hFault, hEq]

/-- A selection is **valid** when it is what an operator can ask for. -/
def Valid (s : Selection) : Prop :=
  ∃ bank indices, make bank indices = .ok s

/-- A selection is valid when it is in a bank and has an index. -/
theorem valid_iff {s : Selection} : s.Valid ↔ s.InBank ∧ s.indices ≠ [] := by
  constructor
  · rintro ⟨bank, indices, hMake⟩
    obtain ⟨-, hMem, hInBank, hSome, -⟩ := make_eq_ok_iff.mp hMake
    obtain ⟨index, hIndex⟩ := List.exists_mem_of_ne_nil indices hSome
    exact ⟨hInBank, List.ne_nil_of_mem ((hMem index).mpr hIndex)⟩
  · rintro ⟨hInBank, hSome⟩
    exact ⟨s.bank, s.indices,
      make_eq_ok_iff.mpr ⟨rfl, fun _ => Iff.rfl, hInBank, hSome, s.nodup_indices⟩⟩

/-- A selection is not empty just when it has an index. -/
theorem isEmpty_eq_false_iff {s : Selection} : s.isEmpty = false ↔ s.indices ≠ [] := by
  rw [isEmpty, List.isEmpty_eq_false_iff]

end Selection

end RemoteAttestation
