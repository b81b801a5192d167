import RemoteAttestation.Pcr.Values
import RemoteAttestation.Proofs.TreeMap

/-!
# Collections of PCR Values

A collection of values is known by what it has in each slot. Its listing has the same values,
and a collection that is filled from entries has the values of the entries.

## Main results

* `PcrValues.ext_get?`: a collection is known by its values.
* `PcrValues.get?_insertAll_eq_some_iff`: the values of a filled collection.
* `PcrValues.get?_insertAll_toList`: the values of two collections put together.
* `PcrValues.concatSlots_eq_ok_iff`: the values of some slots, one after the other.
-/

namespace RemoteAttestation

/-- Slots with the same bank and the same index are the same. -/
theorem Slot.eq_of_fields {slot slot' : Slot} (hBank : slot.bank = slot'.bank)
    (hIndex : slot.index = slot'.index) : slot = slot' := by
  cases slot
  cases slot'
  cases hBank
  cases hIndex
  rfl

/-- The slots of a selection are those of its bank with one of its indices. -/
theorem Selection.mem_slots_iff {s : Selection} {slot : Slot} :
    slot ∈ s.slots ↔ slot.bank = s.bank ∧ slot.index ∈ s.indices := by
  rw [slots, List.mem_map]
  constructor
  · rintro ⟨index, hIndex, rfl⟩
    exact ⟨rfl, hIndex⟩
  · rintro ⟨hBank, hIndex⟩
    exact ⟨slot.index, hIndex, Slot.eq_of_fields hBank.symm rfl⟩

namespace PcrValues

/-- Values that are the same in every slot are the same. -/
theorem ext_get? {v v' : PcrValues}
    (h : ∀ slot value, v.get? slot = some value ↔ v'.get? slot = some value) : v = v' := by
  have hMap : v.bySlot = v'.bySlot :=
    Std.ExtTreeMap.ext_getElem? fun slot => Option.ext fun value => h slot value
  cases v
  cases v'
  exact congrArg mk hMap

/-- No slot has a value to begin with. -/
@[simp] theorem get?_empty (slot : Slot) : empty.get? slot = none :=
  Std.ExtTreeMap.getElem?_empty

/-- A value that is put into a slot is found there, and the other slots keep theirs. -/
theorem get?_insert (v : PcrValues) (slot : Slot) (value : Bytes) (slot' : Slot) :
    (v.insert slot value).get? slot' = if slot = slot' then some value else v.get? slot' := by
  simp only [get?, insert, Std.ExtTreeMap.getElem?_insert, Std.compare_eq_iff_eq]

/-- The list of values holds what the slots hold. -/
theorem mem_toList_iff {v : PcrValues} {slot : Slot} {value : Bytes} :
    (slot, value) ∈ v.toList ↔ v.get? slot = some value := by
  rw [toList, get?, Std.ExtTreeMap.mem_toList_iff_getElem?_eq_some]

/-- The list of values has one value for each slot. -/
theorem toList_agree (v : PcrValues) : Agree v.toList :=
  agree_toList v.bySlot

/-- The values of some slots are there when each slot has one. -/
theorem concatSlots_eq_ok_iff {v : PcrValues} {slots : List Slot} {b : Bytes} :
    v.concatSlots slots = .ok b ↔
      (∀ slot ∈ slots, (v.get? slot).isSome = true) ∧
        b = slots.flatMap fun slot => (v.get? slot).getD [] := by
  induction slots generalizing b with
  | nil =>
      rw [concatSlots, Except.ok.injEq]
      simp only [List.not_mem_nil, false_imp_iff, implies_true, List.flatMap_nil, true_and]
      exact eq_comm
  | cons slot rest ih =>
      rw [concatSlots]
      cases hGet : v.get? slot with
      | none => simp [hGet]
      | some value =>
          simp only [List.forall_mem_cons, hGet, List.flatMap_cons, Option.isSome_some,
            Option.getD_some, true_and]
          constructor
          · intro h
            cases hRest : v.concatSlots rest with
            | error missing => rw [hRest] at h; cases h
            | ok tail =>
                rw [hRest] at h
                obtain ⟨hAll, hTail⟩ := ih.mp hRest
                refine ⟨hAll, ?_⟩
                rw [← hTail]
                exact (Except.ok.inj h).symm
          · rintro ⟨hAll, rfl⟩
            rw [ih.mpr ⟨hAll, rfl⟩]
            rfl

/-- Entries are put into the map one after the other. -/
theorem bySlot_insertAll (v : PcrValues) (entries : List (Slot × Bytes)) :
    (v.insertAll entries).bySlot =
      entries.foldl (fun map entry => map.insert entry.1 entry.2) v.bySlot := by
  induction entries generalizing v with
  | nil => rfl
  | cons entry entries ih => exact ih (v.insert entry.1 entry.2)

/-- A collection with entries **put in**, which agree, has their values, and in other slots its
own. -/
theorem get?_insertAll_iff (v : PcrValues) {entries : List (Slot × Bytes)} (h : Agree entries)
    {slot : Slot} {value : Bytes} :
    (v.insertAll entries).get? slot = some value ↔
      (slot, value) ∈ entries ∨ (∀ other, (slot, other) ∉ entries) ∧ v.get? slot = some value := by
  rw [get?, bySlot_insertAll]
  exact getElem?_foldl_insert_iff h v.bySlot

/-- A collection that is **filled** from entries has their values, if they agree. -/
theorem get?_insertAll_eq_some_iff {entries : List (Slot × Bytes)} (h : Agree entries) {slot : Slot}
    {value : Bytes} :
    (empty.insertAll entries).get? slot = some value ↔ (slot, value) ∈ entries := by
  rw [get?_insertAll_iff empty h]
  simp

/-- Of the values of two collections **the later** count. -/
theorem get?_insertAll_toList (v w : PcrValues) (slot : Slot) :
    (v.insertAll w.toList).get? slot = (w.get? slot).or (v.get? slot) := by
  refine Option.ext fun value => ?_
  rw [get?_insertAll_iff v w.toList_agree]
  simp only [mem_toList_iff]
  cases w.get? slot with
  | none => simp
  | some other => simp

end PcrValues

end RemoteAttestation
