import RemoteAttestation.Proofs.Device.PcrAnswer

/-!
# Reading PCRs from Any TPM

A session that reads values is a sequence of rounds. An answer that delivers something missing
starts the next round, which asks for the rest; any other answer is the end. Nothing is assumed
of the answers, so what a session does is said by a relation between what is missing, what is
known, the exchanges and the result (`PcrReading`), and every session with every transport is
such a reading (`reading_readMissing`). All that follows is by induction on readings: they are
short, what they ask for is what nobody brought, and they end with what was delivered.

A reading takes what an answer delivers, wanted or not. So the values may be those of more PCRs
than were selected, and there are no others just when no answer brings others.

## Main results

* `PcrReading.length_le`: a reading has no more rounds than indices are missing.
* `PcrReading.exists_requests`: what the commands ask for.
* `PcrReading.get?_eq_some_iff`, `PcrReading.fails_iff`: what a reading ends with.
* `Selection.readSession_stepwise`: a session with any transport, from the first command to its end.
* `Selection.readSession_slots`: the slots that have a value in the end.
* `Selection.readSession_slots_not_selected`: they need not be selected.
-/

namespace RemoteAttestation

open PcrAnswer

/-! ### What exchanges bring -/

/-- An exchange **brings** an index when its answer delivers a value for it. -/
def Brings (bank : Algorithm) (exchange : Exchange) (index : UInt8) : Prop :=
  ∃ received, Delivers bank exchange.2 received ∧ index ∈ received.map Prod.fst

/-- An index is **still wanted** behind some exchanges when none of them brings it. -/
def StillWanted (bank : Algorithm) (indices : List UInt8) (earlier : List Exchange)
    (index : UInt8) : Prop :=
  index ∈ indices ∧ ∀ exchange ∈ earlier, ¬ Brings bank exchange index

/-- The value that **comes last** for an index among some values. -/
def ComesLast (received : List (UInt8 × Bytes)) (index : UInt8) (value : Bytes) : Prop :=
  ∃ before behind, received = before ++ (index, value) :: behind ∧ index ∉ behind.map Prod.fst

/-- The value that is **delivered last** for an index in some exchanges. -/
inductive DeliveredLast (bank : Algorithm) (index : UInt8) (value : Bytes) : List Exchange → Prop
  /-- It comes last in this answer, and no later exchange brings the index. -/
  | here {command answer received later} (hDelivers : Delivers bank answer received)
      (hLast : ComesLast received index value)
      (hLater : ∀ exchange ∈ later, ¬ Brings bank exchange index) :
      DeliveredLast bank index value ((command, answer) :: later)
  /-- It is delivered last in the later exchanges. -/
  | later {exchange later} (h : DeliveredLast bank index value later) :
      DeliveredLast bank index value (exchange :: later)

section

variable {bank : Algorithm} {command : Bytes} {answer : Except TransportFault Bytes}
  {received : List (UInt8 × Bytes)}

/-- An exchange brings the indices that its answer delivers. -/
theorem brings_iff (h : Delivers bank answer received) {index : UInt8} :
    Brings bank (command, answer) index ↔ index ∈ received.map Prod.fst := by
  constructor
  · rintro ⟨received', hDelivers, hIndex⟩
    obtain rfl := h.unique hDelivers
    exact hIndex
  · exact fun hIndex => ⟨received, h, hIndex⟩

/-- All indices are wanted before the first exchange. -/
theorem stillWanted_nil (bank : Algorithm) (indices : List UInt8) :
    StillWanted bank indices [] = fun index => index ∈ indices := by
  funext index
  simp [StillWanted]

/-- What is wanted behind an exchange and others is what the others leave of the rest. -/
theorem stillWanted_cons (h : Delivers bank answer received) (missing : List UInt8)
    (earlier : List Exchange) :
    StillWanted bank missing ((command, answer) :: earlier) =
      StillWanted bank (PcrRound.stillMissing missing ⟨received, none⟩) earlier := by
  funext index
  rw [StillWanted, StillWanted, List.forall_mem_cons, brings_iff h, PcrRound.mem_stillMissing_iff,
    and_assoc]

/-! ### Last values -/

/-- A value comes last when it does among the later entries, or when it is the first and its
index does not come again. -/
theorem comesLast_cons_iff {entry : UInt8 × Bytes} {index : UInt8} {value : Bytes} :
    ComesLast (entry :: received) index value ↔
      ComesLast received index value ∨
        index ∉ received.map Prod.fst ∧ entry = (index, value) := by
  constructor
  · rintro ⟨before, behind, hReceived, hBehind⟩
    cases before with
    | nil =>
        obtain ⟨rfl, rfl⟩ := List.cons.inj hReceived
        exact .inr ⟨hBehind, rfl⟩
    | cons _ before => exact .inl ⟨before, behind, (List.cons.inj hReceived).2, hBehind⟩
  · rintro (⟨before, behind, rfl, hBehind⟩ | ⟨hBehind, rfl⟩)
    · exact ⟨entry :: before, behind, rfl, hBehind⟩
    · exact ⟨[], received, rfl, hBehind⟩

/-- No value comes last where none comes. -/
theorem not_comesLast_nil {index : UInt8} {value : Bytes} : ¬ ComesLast [] index value := by
  rintro ⟨before, behind, hNil, -⟩
  exact List.append_ne_nil_of_right_ne_nil before (List.cons_ne_nil _ behind) hNil.symm

/-- Some value comes last for an index just when there is a value for it. -/
theorem exists_comesLast_iff {index : UInt8} :
    (∃ value, ComesLast received index value) ↔ index ∈ received.map Prod.fst := by
  induction received with
  | nil => simp [not_comesLast_nil]
  | cons entry received ih =>
      simp only [comesLast_cons_iff, exists_or, ih, List.map_cons, List.mem_cons]
      by_cases hReceived : index ∈ received.map Prod.fst
      · simp only [hReceived, true_or, or_true]
      · simp only [hReceived, false_or, not_false_eq_true, true_and, or_false]
        exact ⟨fun ⟨value, hEntry⟩ => hEntry ▸ rfl, fun hIndex => ⟨entry.2, hIndex ▸ rfl⟩⟩

/-- **What a round puts in**: in the slots of the bank, the values that come last. -/
theorem PcrValues.get?_insertAll_entries_eq_some_iff {values : PcrValues} {slot : Slot}
    {value : Bytes} :
    (values.insertAll (PcrRound.entries bank ⟨received, none⟩)).get? slot = some value ↔
      slot.bank = bank ∧ ComesLast received slot.index value ∨
        (slot.bank = bank → slot.index ∉ received.map Prod.fst) ∧
          values.get? slot = some value := by
  induction received generalizing values with
  | nil => simp [PcrRound.entries, insertAll, not_comesLast_nil]
  | cons entry received ih =>
      obtain ⟨index, content⟩ := entry
      obtain ⟨slotBank, slotIndex⟩ := slot
      refine (@ih (values.insert ⟨bank, index⟩ content)).trans ?_
      simp only [get?_insert, Slot.mk.injEq, comesLast_cons_iff, List.map_cons, List.mem_cons,
        Prod.mk.injEq]
      grind

theorem not_deliveredLast_nil {index : UInt8} {value : Bytes} :
    ¬ DeliveredLast bank index value [] := nofun

/-- A value is delivered last by a later exchange, or by the first one if no later one brings
the index. -/
theorem deliveredLast_cons_iff (h : Delivers bank answer received) {later : List Exchange}
    {index : UInt8} {value : Bytes} :
    DeliveredLast bank index value ((command, answer) :: later) ↔
      DeliveredLast bank index value later ∨
        (∀ exchange ∈ later, ¬ Brings bank exchange index) ∧ ComesLast received index value := by
  constructor
  · rintro (⟨hDelivers, hLast, hLater⟩ | ⟨hLast⟩)
    · exact .inr ⟨hLater, h.unique hDelivers ▸ hLast⟩
    · exact .inl hLast
  · rintro (hLast | ⟨hLater, hLast⟩)
    · exact .later hLast
    · exact .here h hLast hLater

/-- The value that is delivered last is **delivered**. -/
theorem DeliveredLast.exists_delivers {record : List Exchange} {index : UInt8} {value : Bytes}
    (h : DeliveredLast bank index value record) :
    ∃ exchange ∈ record, ∃ received, Delivers bank exchange.2 received ∧
      (index, value) ∈ received := by
  induction h with
  | here hDelivers hLast _ =>
      obtain ⟨before, behind, rfl, -⟩ := hLast
      exact ⟨_, List.mem_cons_self, _, hDelivers, by simp⟩
  | later _ ih =>
      obtain ⟨exchange, hExchange, hDelivers⟩ := ih
      exact ⟨exchange, List.mem_cons_of_mem _ hExchange, hDelivers⟩

/-- Some value is delivered last for an index just when some exchange **brings** the index. -/
theorem exists_deliveredLast_iff {record : List Exchange} {index : UInt8} :
    (∃ value, DeliveredLast bank index value record) ↔
      ∃ exchange ∈ record, Brings bank exchange index := by
  constructor
  · rintro ⟨value, hLast⟩
    obtain ⟨exchange, hExchange, received, hDelivers, hEntry⟩ := hLast.exists_delivers
    exact ⟨exchange, hExchange, received, hDelivers, List.mem_map_of_mem hEntry⟩
  · intro hBrings
    induction record with
    | nil =>
        obtain ⟨exchange, hExchange, -⟩ := hBrings
        cases hExchange
    | cons first later ih =>
        by_cases hLater : ∃ exchange ∈ later, Brings bank exchange index
        · exact (ih hLater).imp fun _ hLast => .later hLast
        · simp only [List.mem_cons, exists_eq_or_imp, hLater, or_false] at hBrings
          obtain ⟨received, hDelivers, hIndex⟩ := hBrings
          obtain ⟨value, hLast⟩ := exists_comesLast_iff.mpr hIndex
          exact ⟨value, .here hDelivers hLast fun exchange hExchange hBrings =>
            hLater ⟨exchange, hExchange, hBrings⟩⟩

end

/-! ### Readings -/

/-- A **reading** of a bank: what is missing and what is known at its start, its exchanges, and
its result. -/
inductive PcrReading (bank : Algorithm) :
    List UInt8 → PcrValues → List Exchange → Except PcrReadFault PcrValues → Prop
  /-- Nothing is missing. -/
  | complete (values : PcrValues) : PcrReading bank [] values [] (.ok values)
  /-- An answer delivers something that is missing, and the rest is read. -/
  | round {missing values answer received record result}
      (hDelivers : Delivers bank answer received)
      (hMissing : ∃ index ∈ received.map Prod.fst, index ∈ missing)
      (hRest : PcrReading bank (PcrRound.stillMissing missing ⟨received, none⟩)
        (values.insertAll (PcrRound.entries bank ⟨received, none⟩)) record result) :
      PcrReading bank missing values
        (((Selection.ofIndices bank missing).readCommand, answer) :: record) result
  /-- An answer is fruitless. -/
  | failure {missing values answer} (fault : PcrReadFault) (hSome : missing ≠ [])
      (hFruitless : Fruitless bank (· ∈ missing) answer) :
      PcrReading bank missing values
        [((Selection.ofIndices bank missing).readCommand, answer)] (.error fault)

/-- **Every session is a reading**, with whatever transport. -/
theorem reading_readMissing {σ : Type} (transmit : Bytes → StateM σ (Except TransportFault Bytes))
    (report : DeviceEvent → StateM σ Unit) (bank : Algorithm) (missing : List UInt8)
    (values : PcrValues) (state : σ) :
    PcrReading bank missing values
      ((readMissing bank missing values).exchanges transmit report state)
      ((readMissing bank missing values).run transmit report state).1 := by
  induction missing, values using readMissing.induct bank generalizing state with
  | case1 missing values hNone =>
      obtain rfl : missing = [] := List.isEmpty_iff.mp hNone
      rw [readMissing, if_pos hNone, Session.run_done, Session.exchanges_done]
      exact .complete values
  | case2 missing values hSome ih =>
      rw [readMissing, if_neg hSome, Session.run_send, Session.exchanges_send,
        Session.run_tellAll, Session.exchanges_tellAll]
      have hNe : missing ≠ [] := mt List.isEmpty_iff.mpr hSome
      have hRest := ih (transmit (Selection.ofIndices bank missing).readCommand state).1
      generalize (transmit (Selection.ofIndices bank missing).readCommand state).1 = answer at *
      generalize hRound : PcrRound.ofBody bank missing (Response.bodyOf answer) = round at *
      obtain ⟨received, fault⟩ := round
      cases fault with
      | some fault =>
          refine .failure fault hNe (fruitless_iff.mpr ?_)
          rintro ⟨received', hDelivers, -⟩
          cases hRound.symm.trans (ofBody_eq_iff.mpr hDelivers)
      | none =>
          have hDelivers := ofBody_eq_iff.mp hRound
          have hLess : (PcrRound.stillMissing missing ⟨received, none⟩).length < missing.length ↔
              ∃ index ∈ received.map Prod.fst, index ∈ missing :=
            PcrRound.length_stillMissing_lt_iff _
          dsimp only
          by_cases hMissing : ∃ index ∈ received.map Prod.fst, index ∈ missing
          · rw [if_pos (hLess.mpr hMissing)]
            exact .round hDelivers hMissing (hRest (hLess.mpr hMissing) _)
          · rw [if_neg (mt hLess.mp hMissing)]
            exact .failure _ hNe (.nothingWanted hDelivers fun index hIndex hWanted =>
              hMissing ⟨index, hIndex, hWanted⟩)

namespace PcrReading

variable {bank : Algorithm} {missing : List UInt8} {values all : PcrValues}
  {record : List Exchange} {result : Except PcrReadFault PcrValues}

/-- A reading has **no more rounds** than indices are missing. -/
theorem length_le (h : PcrReading bank missing values record result) :
    record.length ≤ missing.length := by
  induction h with
  | complete values => exact Nat.le_refl 0
  | round _ hMissing _ ih =>
      exact Nat.lt_of_le_of_lt ih ((PcrRound.length_stillMissing_lt_iff ⟨_, none⟩).mpr hMissing)
  | failure _ hSome _ => exact List.length_pos_iff.mpr hSome

/-- **What the commands ask for**: each asks for what no exchange before it brought, and that
is less each time. -/
theorem exists_requests (h : PcrReading bank missing values record result) :
    ∃ requests : List Selection,
      List.Forall₂ (fun requested exchange => requested.AskedBy exchange.1) requests record ∧
      (∀ k requested, requests[k]? = some requested → requested.bank = bank ∧
        ∀ index, index ∈ requested.indices ↔ StillWanted bank missing (record.take k) index) ∧
      requests.Pairwise fun earlier later => (∀ index ∈ later.indices, index ∈ earlier.indices) ∧
        ∃ index ∈ earlier.indices, index ∉ later.indices := by
  induction h with
  | complete values => exact ⟨[], .nil, fun k requested hRequest => by simp at hRequest, .nil⟩
  | @round missing values answer received record result hDelivers hMissing _ ih =>
      obtain ⟨requests, hCommands, hAsk, hShrink⟩ := ih
      refine ⟨Selection.ofIndices bank missing :: requests,
        .cons (Selection.askedBy_readCommand _) hCommands, ?_,
        List.pairwise_cons.mpr ⟨?_, hShrink⟩⟩
      · intro k requested hRequest
        cases k with
        | zero =>
            obtain rfl := Option.some.inj hRequest
            rw [List.take_zero, stillWanted_nil]
            exact ⟨rfl, fun index => Selection.mem_ofIndices_iff⟩
        | succ k =>
            rw [List.take_succ_cons, stillWanted_cons hDelivers]
            exact hAsk k requested hRequest
      · intro later hLater
        obtain ⟨k, hk⟩ := List.mem_iff_getElem?.mp hLater
        have hLeft : ∀ index ∈ later.indices,
            index ∈ missing ∧ index ∉ received.map Prod.fst := fun index hIndex =>
          PcrRound.mem_stillMissing_iff.mp (((hAsk k later hk).2 index).mp hIndex).1
        obtain ⟨index, hIndex, hMissing⟩ := hMissing
        exact ⟨fun other hOther => Selection.mem_ofIndices_iff.mpr (hLeft other hOther).1, index,
          Selection.mem_ofIndices_iff.mpr hMissing, fun hLater => (hLeft index hLater).2 hIndex⟩
  | @failure missing values answer fault _ _ =>
      refine ⟨[Selection.ofIndices bank missing],
        .cons (Selection.askedBy_readCommand _) .nil, ?_, List.pairwise_singleton _ _⟩
      intro k requested hRequest
      obtain ⟨rfl, rfl⟩ : k = 0 ∧ Selection.ofIndices bank missing = requested := by
        simpa [List.getElem?_singleton] using hRequest
      rw [List.take_zero, stillWanted_nil]
      exact ⟨rfl, fun index => Selection.mem_ofIndices_iff⟩

/-- **Each command** asks for something, and only for what is missing. -/
theorem exists_request_of_mem (h : PcrReading bank missing values record result)
    {exchange : Exchange} (hExchange : exchange ∈ record) :
    ∃ requested : Selection, requested.AskedBy exchange.1 ∧ requested.bank = bank ∧
      requested.indices ≠ [] ∧ ∀ index ∈ requested.indices, index ∈ missing := by
  have hAsks : ∀ {missing : List UInt8}, missing ≠ [] →
      (Selection.ofIndices bank missing).indices ≠ [] ∧
        ∀ index ∈ (Selection.ofIndices bank missing).indices, index ∈ missing := by
    intro missing hSome
    obtain ⟨index, hIndex⟩ := List.exists_mem_of_ne_nil missing hSome
    exact ⟨List.ne_nil_of_mem (Selection.mem_ofIndices_iff.mpr hIndex),
      fun index hIndex => Selection.mem_ofIndices_iff.mp hIndex⟩
  induction h with
  | complete values => cases hExchange
  | @round missing values answer received record result _ hMissing _ ih =>
      obtain ⟨index, -, hIndex⟩ := hMissing
      rcases List.mem_cons.mp hExchange with rfl | hLater
      · exact ⟨_, Selection.askedBy_readCommand _, rfl, hAsks (List.ne_nil_of_mem hIndex)⟩
      · obtain ⟨requested, hCommand, hBank, hSome, hSubset⟩ := ih hLater
        exact ⟨requested, hCommand, hBank, hSome, fun other hOther =>
          (PcrRound.mem_stillMissing_iff.mp (hSubset other hOther)).1⟩
  | failure _ hSome _ =>
      obtain rfl := List.mem_singleton.mp hExchange
      exact ⟨_, Selection.askedBy_readCommand _, rfl, hAsks hSome⟩

/-- A reading that succeeds leaves **nothing missing**: each index is brought by an
exchange. -/
theorem exists_brings (h : PcrReading bank missing values record (.ok all)) {index : UInt8}
    (hIndex : index ∈ missing) : ∃ exchange ∈ record, Brings bank exchange index := by
  generalize hResult : Except.ok all = result at h
  induction h with
  | complete values => cases hIndex
  | @round missing values answer received record result hDelivers hMissing _ ih =>
      by_cases hReceived : index ∈ received.map Prod.fst
      · exact ⟨_, List.mem_cons_self, (brings_iff hDelivers).mpr hReceived⟩
      · obtain ⟨exchange, hExchange, hBrings⟩ :=
          ih (PcrRound.mem_stillMissing_iff.mpr ⟨hIndex, hReceived⟩) hResult
        exact ⟨exchange, List.mem_cons_of_mem _ hExchange, hBrings⟩
  | failure fault _ _ => cases hResult

/-- **What a reading ends with**: in the slots of the bank, the values that were delivered
last, and what was known before wherever nothing was delivered. -/
theorem get?_eq_some_iff (h : PcrReading bank missing values record (.ok all)) {slot : Slot}
    {value : Bytes} :
    all.get? slot = some value ↔
      slot.bank = bank ∧ DeliveredLast bank slot.index value record ∨
        (slot.bank = bank → ∀ exchange ∈ record, ¬ Brings bank exchange slot.index) ∧
          values.get? slot = some value := by
  generalize hResult : Except.ok all = result at h
  induction h with
  | complete values =>
      obtain rfl := Except.ok.inj hResult
      simp [not_deliveredLast_nil]
  | @round missing values answer received record result hDelivers _ _ ih =>
      rw [ih hResult, deliveredLast_cons_iff hDelivers, List.forall_mem_cons, brings_iff hDelivers,
        PcrValues.get?_insertAll_entries_eq_some_iff]
      by_cases hBank : slot.bank = bank
      · simp only [hBank, true_and, true_imp_iff]
        tauto
      · simp only [hBank, false_and, false_imp_iff, true_and, false_or]
  | failure fault _ _ => cases hResult

/-- **A reading fails** just when one of its answers is fruitless. -/
theorem fails_iff (h : PcrReading bank missing values record result) :
    (∃ fault, result = .error fault) ↔ ∃ k exchange, record[k]? = some exchange ∧
      Fruitless bank (StillWanted bank missing (record.take k)) exchange.2 := by
  induction h with
  | complete values => simp
  | @round missing values answer received record result hDelivers hMissing _ ih =>
      rw [ih]
      constructor
      · rintro ⟨k, exchange, hExchange, hFruitless⟩
        refine ⟨k + 1, exchange, hExchange, ?_⟩
        rwa [List.take_succ_cons, stillWanted_cons hDelivers]
      · rintro ⟨k, exchange, hExchange, hFruitless⟩
        cases k with
        | zero =>
            obtain rfl := Option.some.inj hExchange
            rw [List.take_zero, stillWanted_nil] at hFruitless
            exact absurd ⟨received, hDelivers, hMissing⟩ (fruitless_iff.mp hFruitless)
        | succ k =>
            rw [List.take_succ_cons, stillWanted_cons hDelivers] at hFruitless
            exact ⟨k, exchange, hExchange, hFruitless⟩
  | failure fault _ hFruitless =>
      refine ⟨fun _ => ⟨0, _, rfl, ?_⟩, fun _ => ⟨fault, rfl⟩⟩
      rwa [List.take_zero, stillWanted_nil]

/-- Where nothing is missing, **nothing is sent**. -/
theorem eq_of_nil (h : PcrReading bank [] values record result) :
    record = [] ∧ result = .ok values := by
  cases h with
  | complete => exact ⟨rfl, rfl⟩
  | round _ hMissing _ =>
      obtain ⟨index, -, hIndex⟩ := hMissing
      cases hIndex
  | failure _ hSome _ => exact absurd rfl hSome

/-- A reading that starts with no values ends with those that were **delivered last**. -/
theorem get?_eq_some_iff_of_empty (h : PcrReading bank missing .empty record (.ok all))
    {slot : Slot} {value : Bytes} :
    all.get? slot = some value ↔ slot.bank = bank ∧ DeliveredLast bank slot.index value record := by
  rw [h.get?_eq_some_iff, PcrValues.get?_empty]
  simp only [reduceCtorEq, and_false, or_false]

/-- The slots that then have a value are those of the indices that were **brought**. -/
theorem isSome_get?_iff_of_empty (h : PcrReading bank missing .empty record (.ok all))
    {slot : Slot} :
    (all.get? slot).isSome ↔
      slot.bank = bank ∧ ∃ exchange ∈ record, Brings bank exchange slot.index := by
  rw [Option.isSome_iff_exists, ← exists_deliveredLast_iff, ← exists_and_left]
  exact exists_congr fun value => h.get?_eq_some_iff_of_empty

end PcrReading

/-! ### Sessions that read a selection -/

namespace Selection

/-- What a session that reads a selection does, **step by step**, with the transport that made
this record: what it asks for, and what it ends with. -/
structure ReadsStepwise (s : Selection) (record : List Exchange)
    (result : Except PcrReadFault PcrValues) : Prop where
  /-- There are no more commands than selected indices. -/
  length_le : record.length ≤ s.size
  /-- Each command asks for the selected indices that no answer before it delivered, and for
  nothing else. From one command to any later one, there are fewer. -/
  requests : ∃ requests : List Selection,
    List.Forall₂ (fun requested exchange => requested.AskedBy exchange.1) requests record ∧
    (∀ k requested, requests[k]? = some requested → requested.bank = s.bank ∧
      ∀ index, index ∈ requested.indices ↔ StillWanted s.bank s.indices (record.take k) index) ∧
    requests.Pairwise fun earlier later => (∀ index ∈ later.indices, index ∈ earlier.indices) ∧
      ∃ index ∈ earlier.indices, index ∉ later.indices
  /-- On success each selected index has a value. -/
  complete : ∀ values, result = .ok values →
    ∀ index ∈ s.indices, (values.get? ⟨s.bank, index⟩).isSome
  /-- On success all values are in slots of the bank, and each is the one delivered last. -/
  last : ∀ values, result = .ok values → ∀ slot value, values.get? slot = some value ↔
    slot.bank = s.bank ∧ DeliveredLast s.bank slot.index value record
  /-- An answer that is of no use when it comes is a failure, and there is no other. -/
  fails_iff : (∃ fault, result = .error fault) ↔ ∃ k exchange, record[k]? = some exchange ∧
    Fruitless s.bank (StillWanted s.bank s.indices (record.take k)) exchange.2
  /-- For the empty selection nothing is sent, and there are no values. -/
  empty : s.indices = [] → record = [] ∧ result = .ok .empty

variable {σ : Type} (s : Selection) (transmit : Bytes → StateM σ (Except TransportFault Bytes))
  (report : DeviceEvent → StateM σ Unit) (state : σ)

/-- The whole session is a reading that begins with all indices and no values. -/
theorem reading_readSession :
    PcrReading s.bank s.indices .empty (s.readSession.exchanges transmit report state)
      (s.readSession.run transmit report state).1 :=
  reading_readMissing transmit report s.bank s.indices .empty state

/-- **Reading PCRs from any TPM.** Whatever it answers, the session asks for less each time,
ends after at most one command for each selected index, and succeeds just when each answer is
of use; then it has the values that were delivered last. -/
theorem readSession_stepwise :
    s.ReadsStepwise (s.readSession.exchanges transmit report state)
      (s.readSession.run transmit report state).1 := by
  have hReading := reading_readSession s transmit report state
  generalize s.readSession.exchanges transmit report state = record at hReading
  generalize (s.readSession.run transmit report state).1 = result at hReading
  refine ⟨hReading.length_le, hReading.exists_requests, ?_, ?_, hReading.fails_iff, fun hNone => ?_⟩
  · rintro values rfl index hIndex
    exact hReading.isSome_get?_iff_of_empty.mpr ⟨rfl, hReading.exists_brings hIndex⟩
  · rintro values rfl slot value
    exact hReading.get?_eq_some_iff_of_empty
  · rw [hNone] at hReading
    exact hReading.eq_of_nil

variable {s transmit report state}

/-- **The slots that have a value in the end** are those of the indices that the answers bring,
which include all that were selected. There are no others just when no answer brings an index
that was not selected. -/
theorem readSession_slots {values : PcrValues}
    (h : (s.readSession.run transmit report state).1 = .ok values) :
    (∀ slot, (values.get? slot).isSome ↔ slot.bank = s.bank ∧
      ∃ exchange ∈ s.readSession.exchanges transmit report state,
        Brings s.bank exchange slot.index) ∧
    (∀ slot ∈ s.slots, (values.get? slot).isSome) ∧
    ((∀ slot, (values.get? slot).isSome ↔ slot ∈ s.slots) ↔
      ∀ exchange ∈ s.readSession.exchanges transmit report state,
        ∀ index, Brings s.bank exchange index → index ∈ s.indices) := by
  have hReading := reading_readSession s transmit report state
  rw [h] at hReading
  generalize s.readSession.exchanges transmit report state = record at hReading
  have hSelected : ∀ slot ∈ s.slots, (values.get? slot).isSome := by
    intro slot hSlot
    obtain ⟨hBank, hIndex⟩ := mem_slots_iff.mp hSlot
    exact hReading.isSome_get?_iff_of_empty.mpr ⟨hBank, hReading.exists_brings hIndex⟩
  refine ⟨fun slot => hReading.isSome_get?_iff_of_empty, hSelected, fun hKeys => ?_,
    fun hAsked => ?_⟩
  · intro exchange hExchange index hBrings
    have hSome := hReading.isSome_get?_iff_of_empty.mpr
      (⟨rfl, exchange, hExchange, hBrings⟩ : (⟨s.bank, index⟩ : Slot).bank = s.bank ∧ _)
    exact (mem_slots_iff.mp ((hKeys _).mp hSome)).2
  · intro slot
    refine ⟨fun hSome => ?_, hSelected slot⟩
    obtain ⟨hBank, exchange, hExchange, hBrings⟩ := hReading.isSome_get?_iff_of_empty.mp hSome
    exact mem_slots_iff.mpr ⟨hBank, hAsked exchange hExchange _ hBrings⟩

/-- A TPM that delivers all that is selected in **one answer** ends the session. -/
theorem run_readSession_of_delivers {received : List (UInt8 × Bytes)} (hSome : s.indices ≠ [])
    (hDelivers : Delivers s.bank (transmit s.readCommand state).1 received)
    (hAll : ∀ index ∈ s.indices, index ∈ received.map Prod.fst) :
    (s.readSession.run transmit report state).1 =
      .ok (.insertAll .empty (PcrRound.entries s.bank ⟨received, none⟩)) := by
  have hNone : PcrRound.stillMissing s.indices ⟨received, none⟩ = [] := by
    refine List.eq_nil_iff_forall_not_mem.mpr fun index hIndex => ?_
    obtain ⟨hMissing, hNot⟩ := PcrRound.mem_stillMissing_iff.mp hIndex
    exact hNot (hAll index hMissing)
  rw [readSession, readMissing, if_neg (mt List.isEmpty_iff.mp hSome), Session.run_send,
    Session.run_tellAll, ofIndices_indices, ofBody_eq_iff.mpr hDelivers]
  dsimp only
  rw [hNone, if_pos (show [].length < s.indices.length from List.length_pos_iff.mpr hSome)]
  exact (reading_readMissing transmit report s.bank [] _ _).eq_of_nil.2

end Selection

namespace Unasked

/-- The selection that is read. -/
def selected : Selection :=
  OneByOne.single 0

/-- A TPM that answers every command with the values of PCR 0 and PCR 1. -/
def transmit (_ : Bytes) : StateM Unit (Except TransportFault Bytes) :=
  pure (.ok (plain OneByOne.digest OneByOne.both))

/-- All that it answers. -/
def values : PcrValues :=
  .insertAll .empty (PcrRound.entries .sha256 (PcrRound.ofDigests OneByOne.digest [0, 1]))

/-- The answer delivers both digests, though only one was asked for. -/
theorem delivers : Delivers .sha256 (.ok (plain OneByOne.digest OneByOne.both))
    (PcrRound.ofDigests OneByOne.digest [0, 1]).received := by
  have hInBank : OneByOne.both.InBank :=
    ⟨rfl, List.forall_mem_cons.mpr ⟨by decide, List.forall_mem_singleton.mpr (by decide)⟩⟩
  have hFits : ∀ index, (OneByOne.digest index).length < 65536 := fun index => by
    rw [OneByOne.digest, List.length_replicate]
    decide
  exact delivers_plain hInBank (List.cons_ne_nil _ _) (fun index _ => hFits index)
    (by decide +kernel)

/-- The values of both PCRs are the result. -/
theorem run_readSession :
    (selected.readSession.run transmit (fun _ => pure ()) ()).1 = .ok values :=
  Selection.run_readSession_of_delivers (List.cons_ne_nil _ _) delivers
    (List.forall_mem_singleton.mpr (by decide))

end Unasked

/-- A TPM that gives a value that was not asked for. -/
theorem Selection.readSession_slots_of_unasked :
    (Unasked.selected.readSession.run Unasked.transmit (fun _ => pure ()) ()).1 =
      .ok Unasked.values ∧
    (∀ slot, (Unasked.values.get? slot).isSome ↔ slot.bank = .sha256 ∧
      ∃ exchange ∈ Unasked.selected.readSession.exchanges Unasked.transmit (fun _ => pure ()) (),
        Brings .sha256 exchange slot.index) :=
  ⟨Unasked.run_readSession, (readSession_slots Unasked.run_readSession).1⟩

/-- The slots that have a value in the end **need not be selected**. -/
theorem Selection.readSession_slots_not_selected :
    ¬ ∀ (s : Selection) (transmit : Bytes → StateM Unit (Except TransportFault Bytes))
      (values : PcrValues), (s.readSession.run transmit (fun _ => pure ()) ()).1 = .ok values →
        ∀ slot, (values.get? slot).isSome ↔ slot ∈ s.slots := by
  intro h
  have hKeys := h _ _ _ Unasked.run_readSession ⟨.sha256, 1⟩
  rw [Unasked.values, PcrValues.get?_insertAll_ofDigests, if_pos (by decide)] at hKeys
  exact absurd (hKeys.mp rfl) (by decide)

end RemoteAttestation
