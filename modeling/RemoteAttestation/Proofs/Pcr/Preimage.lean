import RemoteAttestation.Proofs.CommandLine.PcrSpelling
import RemoteAttestation.Proofs.Pcr.Selection

/-!
# The Preimage of a PCR Digest

The digest of a quote is taken over the values of the selected PCRs, one after the other and
with nothing between them. What keeps them apart is that all values of a bank have one size
(`PcrValues.Sized`), so the places where one value ends and the next begins are known before
the values are. Two collections with the same preimage then agree in each selected slot,
however often a bank is listed. The values that are read from a file have these sizes.

There is a preimage when each selected slot has a value. If not, the fault names the first one
that has none: selections come in the order of the list, and the slots of a selection by
ascending index (`PcrValues.FirstMissing`). What is said of the preimage is proved for the
slots of one selection first, by induction on its indices, and then for the list of selections.

## Main results

* `PcrValues.concat_eq_error_iff`: the fault is the first slot without a value.
* `PcrValues.get?_eq_of_concatSlots`: equal preimages come from equal values.
* `PcrValues.concat_unambiguous`: what a preimage says of the values, and when there is none.
-/

namespace RemoteAttestation

namespace PcrValues

/-- The values **fill** a selection when each of its slots has one. -/
def Fills (v : PcrValues) (s : Selection) : Prop :=
  ∀ index ∈ s.indices, (v.get? ⟨s.bank, index⟩).isSome = true

/-- The lowest slot of a selection **without a value**. -/
structure LowestMissing (v : PcrValues) (s : Selection) (slot : Slot) : Prop where
  /-- The slot is in the bank. -/
  bank : slot.bank = s.bank
  /-- The slot is selected. -/
  selected : slot.index ∈ s.indices
  /-- The slot has no value. -/
  missing : v.get? slot = none
  /-- The slots below it have values. -/
  lower : ∀ index ∈ s.indices, index < slot.index → (v.get? ⟨s.bank, index⟩).isSome = true

/-- The first slot of a list of selections **without a value**: it is the lowest of its
selection, and all selections before that are filled. -/
def FirstMissing (v : PcrValues) (selections : List Selection) (slot : Slot) : Prop :=
  ∃ before s behind, selections = before ++ s :: behind ∧ (∀ earlier ∈ before, v.Fills earlier) ∧
    v.LowestMissing s slot

/-! ### Slots -/

variable {v w : PcrValues}

/-- A value in front of a failure leaves the failure. -/
theorem map_append_eq_error_iff {value : Bytes} {rest : Except Slot Bytes} {slot : Slot} :
    (value ++ ·) <$> rest = .error slot ↔ rest = .error slot := by
  cases rest with
  | ok tail => exact iff_of_false nofun nofun
  | error other => exact Iff.rfl

/-- A slot with a value has it in front of the values of the rest. -/
theorem concatSlots_cons_of_some {slot : Slot} {value : Bytes} (h : v.get? slot = some value)
    (rest : List Slot) : v.concatSlots (slot :: rest) = (value ++ ·) <$> v.concatSlots rest := by
  rw [concatSlots, h]

/-- At a slot without a value the concatenation fails. -/
theorem concatSlots_cons_of_none {slot : Slot} (h : v.get? slot = none) (rest : List Slot) :
    v.concatSlots (slot :: rest) = .error slot := by
  rw [concatSlots, h]

/-- The values of slots and of others behind them. -/
theorem concatSlots_append (slots others : List Slot) :
    v.concatSlots (slots ++ others) =
      v.concatSlots slots >>= fun head => (head ++ ·) <$> v.concatSlots others := by
  induction slots with
  | nil =>
      change _ = ([] ++ ·) <$> v.concatSlots others
      simp only [List.nil_append, id_map']
  | cons slot slots ih =>
      cases hGet : v.get? slot with
      | none =>
          rw [List.cons_append, concatSlots_cons_of_none hGet, concatSlots_cons_of_none hGet]
          rfl
      | some value =>
          rw [List.cons_append, concatSlots_cons_of_some hGet, concatSlots_cons_of_some hGet, ih]
          cases v.concatSlots slots with
          | error missing => rfl
          | ok head =>
              cases v.concatSlots others with
              | error missing => rfl
              | ok tail => exact congrArg Except.ok (List.append_assoc value head tail).symm

/-- Values that agree in some slots have one concatenation there. -/
theorem concatSlots_congr {slots : List Slot} (h : ∀ slot ∈ slots, v.get? slot = w.get? slot) :
    v.concatSlots slots = w.concatSlots slots := by
  induction slots with
  | nil => rfl
  | cons slot rest ih =>
      obtain ⟨hSlot, hRest⟩ := List.forall_mem_cons.mp h
      rw [concatSlots, concatSlots, hSlot, ih hRest]

/-- **Equal preimages come from equal values**: where values have the sizes of their banks'
digests, the octets of the first value are known by their number, and the others follow. -/
theorem get?_eq_of_concatSlots (hv : v.Sized) (hw : w.Sized) {slots : List Slot} {b : Bytes}
    (h : v.concatSlots slots = .ok b) (h' : w.concatSlots slots = .ok b) :
    ∀ slot ∈ slots, v.get? slot = w.get? slot := by
  induction slots generalizing b with
  | nil => exact List.forall_mem_nil _
  | cons slot rest ih =>
      cases hGet : v.get? slot with
      | none => rw [concatSlots_cons_of_none hGet] at h; cases h
      | some value =>
          cases hGet' : w.get? slot with
          | none => rw [concatSlots_cons_of_none hGet'] at h'; cases h'
          | some value' =>
              rw [concatSlots_cons_of_some hGet, map_eq_ok_iff] at h
              rw [concatSlots_cons_of_some hGet', map_eq_ok_iff] at h'
              obtain ⟨tail, hTail, rfl⟩ := h
              obtain ⟨tail', hTail', hEq⟩ := h'
              -- The size depends on the bank only, which tells where the first value ends.
              have hSize : value'.length = value.length :=
                Option.some.inj ((hw _ _ hGet').symm.trans (hv _ _ hGet))
              obtain ⟨rfl, rfl⟩ := List.append_inj hEq hSize
              exact List.forall_mem_cons.mpr ⟨hGet.trans hGet'.symm, ih hTail hTail'⟩

/-! ### One selection -/

/-- The fault of ascending indices is the lowest slot without a value. -/
theorem concatSlots_map_eq_error_iff {bank : Algorithm} {indices : List UInt8}
    (hAscending : indices.Pairwise (· < ·)) {slot : Slot} :
    v.concatSlots (indices.map (⟨bank, ·⟩)) = .error slot ↔
      slot.bank = bank ∧ slot.index ∈ indices ∧ v.get? slot = none ∧
        ∀ index ∈ indices, index < slot.index → (v.get? ⟨bank, index⟩).isSome = true := by
  induction hAscending with
  | nil => simp [concatSlots]
  | @cons first rest hFirst _ ih =>
      cases hGet : v.get? ⟨bank, first⟩ with
      | none =>
          rw [List.map_cons, concatSlots_cons_of_none hGet, Except.error.injEq]
          -- The first index is below all others, so no other slot is the lowest one missing.
          constructor
          · rintro rfl
            refine ⟨rfl, List.mem_cons_self, hGet, fun index hIndex hLower => ?_⟩
            rcases List.mem_cons.mp hIndex with rfl | hRest
            · exact absurd hLower (UInt8.lt_irrefl index)
            · exact absurd hLower (UInt8.lt_asymm (hFirst index hRest))
          · rintro ⟨rfl, hIndex, -, hLower⟩
            rcases List.mem_cons.mp hIndex with hSame | hRest
            · exact Slot.eq_of_fields rfl hSame.symm
            · have hSome := hLower first List.mem_cons_self (hFirst _ hRest)
              rw [hGet] at hSome
              cases hSome
      | some value =>
          rw [List.map_cons, concatSlots_cons_of_some hGet, map_append_eq_error_iff, ih]
          simp only [List.forall_mem_cons, hGet, Option.isSome_some, implies_true, true_and]
          refine and_congr_right fun hBank => ⟨fun h => ⟨.tail _ h.1, h.2⟩, fun h => ⟨?_, h.2⟩⟩
          rcases List.mem_cons.mp h.1 with hSame | hRest
          · have hSlot : slot = ⟨bank, first⟩ := Slot.eq_of_fields hBank hSame
            rw [← hSlot, h.2.1] at hGet
            cases hGet
          · exact hRest

/-- The slots of a selection fail at **the lowest one** that has no value. -/
theorem concatSlots_slots_eq_error_iff {s : Selection} {slot : Slot} :
    v.concatSlots s.slots = .error slot ↔ v.LowestMissing s slot := by
  rw [Selection.slots, concatSlots_map_eq_error_iff s.ascending]
  constructor
  · rintro ⟨hBank, hIndex, hNone, hLower⟩
    exact ⟨hBank, hIndex, hNone, hLower⟩
  · rintro ⟨hBank, hIndex, hNone, hLower⟩
    exact ⟨hBank, hIndex, hNone, hLower⟩

/-- The slots of a selection can be concatenated when each has a value. -/
theorem exists_concatSlots_slots_iff {s : Selection} :
    (∃ b, v.concatSlots s.slots = .ok b) ↔ v.Fills s := by
  simp only [concatSlots_eq_ok_iff, exists_and_left, exists_eq, and_true, Selection.slots,
    List.forall_mem_map, Fills]

/-! ### Lists of selections -/

/-- The values of a selection are in front of those of the later ones. -/
theorem concat_cons (s : Selection) (rest : List Selection) :
    v.concat (s :: rest) =
      v.concatSlots s.slots >>= fun head => (head ++ ·) <$> v.concat rest :=
  concatSlots_append s.slots (rest.flatMap Selection.slots)

/-- What is missing first is missing from the first selection, or from the later ones if that
is filled. -/
theorem firstMissing_cons_iff {s : Selection} {rest : List Selection} {slot : Slot} :
    v.FirstMissing (s :: rest) slot ↔
      v.LowestMissing s slot ∨ v.Fills s ∧ v.FirstMissing rest slot := by
  constructor
  · rintro ⟨before, s', behind, hEq, hFills, hLowest⟩
    cases before with
    | nil =>
        obtain ⟨rfl, rfl⟩ := List.cons.inj hEq
        exact .inl hLowest
    | cons first before =>
        obtain ⟨rfl, rfl⟩ := List.cons.inj hEq
        obtain ⟨hFirst, hFills⟩ := List.forall_mem_cons.mp hFills
        exact .inr ⟨hFirst, before, s', behind, rfl, hFills, hLowest⟩
  · rintro (hLowest | ⟨hFirst, before, s', behind, rfl, hFills, hLowest⟩)
    · exact ⟨[], s, rest, rfl, List.forall_mem_nil _, hLowest⟩
    · exact ⟨s :: before, s', behind, rfl, List.forall_mem_cons.mpr ⟨hFirst, hFills⟩, hLowest⟩

/-- **The fault is the first slot without a value.** -/
theorem concat_eq_error_iff {selections : List Selection} {slot : Slot} :
    v.concat selections = .error slot ↔ v.FirstMissing selections slot := by
  induction selections with
  | nil =>
      refine iff_of_false nofun ?_
      rintro ⟨before, s, behind, hNil, -⟩
      exact List.append_ne_nil_of_right_ne_nil before (List.cons_ne_nil s behind) hNil.symm
  | cons s rest ih =>
      rw [concat_cons, bind_eq_error_iff, firstMissing_cons_iff, concatSlots_slots_eq_error_iff]
      simp only [map_append_eq_error_iff, ih, exists_and_right, exists_concatSlots_slots_iff]

/-- There is a preimage just when all selections are filled. -/
theorem exists_concat_eq_ok_iff {selections : List Selection} :
    (∃ b, v.concat selections = .ok b) ↔ ∀ s ∈ selections, v.Fills s := by
  simp only [concat, concatSlots_eq_ok_iff, exists_and_left, exists_eq, and_true,
    List.forall_mem_flatMap, Selection.slots, List.forall_mem_map, Fills]

/-- There is no preimage just when some selected slot has no value. -/
theorem exists_concat_eq_error_iff {selections : List Selection} :
    (∃ slot, v.concat selections = .error slot) ↔
      ∃ s ∈ selections, ∃ index ∈ s.indices, v.get? ⟨s.bank, index⟩ = none := by
  constructor
  · rintro ⟨slot, hFault⟩
    obtain ⟨before, s, behind, rfl, -, hLowest⟩ := concat_eq_error_iff.mp hFault
    refine ⟨s, by simp, slot.index, hLowest.selected, ?_⟩
    rw [← hLowest.bank]
    exact hLowest.missing
  · rintro ⟨s, hs, index, hIndex, hNone⟩
    cases hConcat : v.concat selections with
    | error slot => exact ⟨slot, rfl⟩
    | ok b =>
        have hSome := exists_concat_eq_ok_iff.mp ⟨b, hConcat⟩ s hs index hIndex
        rw [hNone] at hSome
        cases hSome

/-- **A preimage is unambiguous.** Two collections of values with the sizes of their banks'
digests, one of which fills the selections, have one preimage just when they agree in each
selected slot. There is no preimage just when a selected slot has no value, and then the fault
is the first of these. Values that are read from a file have the right sizes. -/
theorem concat_unambiguous (selections : List Selection) :
    (∀ v w : PcrValues, v.Sized → w.Sized → (∀ s ∈ selections, v.Fills s) →
      (v.concat selections = w.concat selections ↔ ∀ s ∈ selections, ∀ index ∈ s.indices,
        v.get? ⟨s.bank, index⟩ = w.get? ⟨s.bank, index⟩)) ∧
    (∀ v : PcrValues, ((∃ slot, v.concat selections = .error slot) ↔
        ∃ s ∈ selections, ∃ index ∈ s.indices, v.get? ⟨s.bank, index⟩ = none) ∧
      ∀ slot, v.concat selections = .error slot ↔ v.FirstMissing selections slot) ∧
    ∀ text v, ofText text = .ok v → v.Sized := by
  refine ⟨fun v w hv hw hFills => ⟨fun hSame => ?_, fun hAgree => ?_⟩,
    fun v => ⟨exists_concat_eq_error_iff, fun slot => concat_eq_error_iff⟩,
    fun text v => sized_of_ofText⟩
  · obtain ⟨b, hConcat⟩ := exists_concat_eq_ok_iff.mpr hFills
    intro s hs index hIndex
    exact get?_eq_of_concatSlots hv hw hConcat (hSame.symm.trans hConcat) _
      (List.mem_flatMap.mpr ⟨s, hs, List.mem_map_of_mem hIndex⟩)
  · exact concatSlots_congr (List.forall_mem_flatMap.mpr fun s hs =>
      List.forall_mem_map.mpr (hAgree s hs))

end PcrValues

/-! ### Two states of one machine -/

namespace TwoStates

/-- The selections. The first bank is listed a second time. -/
def selections : List Selection :=
  [.ofIndices .sha1 [0], .ofIndices .sha256 [7], .ofIndices .sha1 [0]]

/-- A state that is known by the value of one slot. -/
def state (octet : UInt8) : PcrValues :=
  (PcrValues.empty.insert ⟨.sha1, 0⟩ (List.replicate 20 0)).insert ⟨.sha256, 7⟩
    (List.replicate 32 octet)

/-- The two states differ in one slot. -/
theorem get?_state (octet : UInt8) (slot : Slot) :
    (state octet).get? slot =
      if (⟨.sha256, 7⟩ : Slot) = slot then some (List.replicate 32 octet)
      else if (⟨.sha1, 0⟩ : Slot) = slot then some (List.replicate 20 0) else none := by
  rw [state, PcrValues.get?_insert, PcrValues.get?_insert, PcrValues.get?_empty]

/-- Their values have the sizes of their banks. -/
theorem sized (octet : UInt8) : (state octet).Sized :=
  (PcrValues.sized_empty.insert rfl).insert rfl

/-- Both fill the selections. -/
theorem fills (octet : UInt8) : ∀ s ∈ selections, (state octet).Fills s := by
  have hFirst : (state octet).Fills (.ofIndices .sha1 [0]) := fun index hIndex => by
    obtain rfl := List.mem_singleton.mp (Selection.mem_ofIndices_iff.mp hIndex)
    rw [get?_state]
    rfl
  have hSecond : (state octet).Fills (.ofIndices .sha256 [7]) := fun index hIndex => by
    obtain rfl := List.mem_singleton.mp (Selection.mem_ofIndices_iff.mp hIndex)
    rw [get?_state]
    rfl
  simp only [selections, List.forall_mem_cons, hFirst, hSecond, List.not_mem_nil, false_imp_iff,
    implies_true, and_self]

end TwoStates

/-- States that differ in one slot have different preimages. -/
theorem PcrValues.concat_unambiguous_of_two_states :
    (TwoStates.state 0).Sized ∧ (TwoStates.state 1).Sized ∧
      (∀ s ∈ TwoStates.selections, (TwoStates.state 0).Fills s) ∧
        (TwoStates.state 0).concat TwoStates.selections ≠
          (TwoStates.state 1).concat TwoStates.selections := by
  refine ⟨TwoStates.sized 0, TwoStates.sized 1, TwoStates.fills 0, fun hSame => ?_⟩
  have hListed : Selection.ofIndices .sha256 [7] ∈ TwoStates.selections := .tail _ (.head _)
  have hAgree := ((concat_unambiguous TwoStates.selections).1 _ _ (TwoStates.sized 0)
    (TwoStates.sized 1) (TwoStates.fills 0)).mp hSame _ hListed 7
      (Selection.mem_ofIndices_iff.mpr List.mem_cons_self)
  rw [TwoStates.get?_state, TwoStates.get?_state] at hAgree
  exact absurd hAgree (by decide)

end RemoteAttestation
