import RemoteAttestation.Proofs.Device.PcrCommand
import RemoteAttestation.Proofs.Device.Record
import RemoteAttestation.Proofs.Pcr.SelectionList
import RemoteAttestation.Proofs.Pcr.Values

/-!
# Reading PCRs from an Honest TPM

A TPM is free to answer a request for values with some of them only, and to choose anew each
time. It is honest (`HonestTpm`) when each command that asks for some of the values
(`Selection.AskedBy`) has an answer that brings at least one of them, says which, and the
values are those of the PCRs. Nothing else is asked of it: the choice may depend on everything
that happened before, the entries of the answer may have bitmaps of any width, banks that were
not asked for may be listed with nothing in them, anything may follow the values, and other
commands need not be answered at all.

A session that reads values from such a TPM ends with the values of all selected PCRs, and each
of its rounds brings a value that was still missing. What a round leaves in place is that the
values known so far are those of the selected PCRs that are not missing (`PcrProgress`).

## Main results

* `PcrRound.accepts_readIndices`: the grammar of an answer up to its values.
* `HonestAnswer.exists_round`: an honest answer makes a round of some of the requested values.
* `PcrProgress.next`: what a round leaves in place.
* `Selection.readSession_of_honestTpm`: what a session ends with, and after how many commands.
-/

namespace RemoteAttestation

/-! ### The octets of an answer -/

namespace PcrRound

/-- The form of an answer up to its **values**: a counter, the list of selections, and the
number of values, which is that of the indices of the bank in the list. There is at least
one. -/
def HeadForm (bank : Algorithm) : Grammar (List UInt8) := fun b indices =>
  ∃ (counter count : UInt32) (list : Bytes) (selections : List Selection),
    SelectionList.Form list selections ∧ indices = namedIndices bank selections ∧ indices ≠ [] ∧
      count.toNat = indices.length ∧ b = Wire.u32 counter ++ list ++ Wire.u32 count

/-- The indices are read from the head of the answer, if that names one bank, and it is the
right one. -/
theorem accepts_readIndices (bank : Algorithm) (missing : List UInt8) :
    Reader.Accepts (readIndices bank missing) (HeadForm bank) := by
  refine Reader.Accepts.congr (Reader.Accepts.bind (Reader.accepts_u32.orFail _) fun _ =>
    Reader.Accepts.bind (SelectionList.accepts_read.orFail _) fun selections =>
    Reader.Accepts.bind (Reader.accepts_u32.orFail _) fun count =>
    Reader.Accepts.guard _ <| Reader.Accepts.guard _ <|
    Reader.accepts_pure (namedIndices bank selections)) fun b indices => ?_
  constructor
  · rintro ⟨counter, _, _, rfl, rfl, selections, list, _, rfl, hList, count, _, _, rfl, rfl,
      hSome, hCount, rfl, rfl⟩
    refine ⟨counter, count, list, selections, hList, rfl, by simpa using hSome,
      (not_not.mp hCount).symm, ?_⟩
    rw [List.append_nil, List.append_assoc]
  · rintro ⟨counter, count, list, selections, hList, rfl, hSome, hCount, rfl⟩
    exact ⟨counter, _, _, List.append_assoc _ _ _, rfl, selections, list, _, rfl, hList, count, _,
      [], (List.append_nil _).symm, rfl, by simpa using hSome, not_not.mpr hCount.symm, rfl, rfl⟩

/-- The round that brings the **digests** of some PCRs, with nothing wrong. -/
def ofDigests (digest : UInt8 → Bytes) (indices : List UInt8) : PcrRound :=
  ⟨indices.map fun index => (index, digest index), none⟩

/-- A round with digests brings no fault. -/
@[simp] theorem fault_ofDigests (digest : UInt8 → Bytes) (indices : List UInt8) :
    (ofDigests digest indices).fault = none := rfl

/-- A round with digests brings one for each of its indices. -/
@[simp] theorem map_fst_received_ofDigests (digest : UInt8 → Bytes) (indices : List UInt8) :
    (ofDigests digest indices).received.map Prod.fst = indices := by
  rw [ofDigests, List.map_map]
  exact List.map_id _

/-- The form of **values**, each behind its size. -/
def ValuesForm : Grammar (List Bytes) := fun b values =>
  b = values.flatMap Wire.sized ∧ ∀ value ∈ values, value.length < 65536

/-- Values are written one behind the other, each behind its length. -/
theorem valuesForm_cons_iff {b value : Bytes} {values : List Bytes} :
    ValuesForm b (value :: values) ↔
      ∃ others, b = Wire.sized value ++ others ∧ value.length < 65536 ∧
        ValuesForm others values := by
  rw [ValuesForm, List.flatMap_cons, List.forall_mem_cons]
  constructor
  · rintro ⟨rfl, hFirst, hOthers⟩
    exact ⟨_, rfl, hFirst, rfl, hOthers⟩
  · rintro ⟨_, rfl, hFirst, rfl, hOthers⟩
    exact ⟨rfl, hFirst, hOthers⟩

/-- The digests of a round are in the form of values, if two octets can count each. -/
theorem valuesForm_ofDigests {digest : UInt8 → Bytes} {indices : List UInt8}
    (hFits : ∀ index ∈ indices, (digest index).length < 65536) :
    ValuesForm (indices.flatMap fun index => Wire.sized (digest index))
      ((ofDigests digest indices).received.map Prod.snd) := by
  rw [ofDigests, List.map_map, ValuesForm, List.flatMap_map]
  exact ⟨rfl, List.forall_mem_map.mpr hFits⟩

/-- **The values of some indices are read** when the data begin with a value for each of
them. -/
theorem readValues_eq_iff {indices : List UInt8} {received : List (UInt8 × Bytes)} {c : Cursor} :
    readValues indices c = ⟨received, none⟩ ↔
      received.map Prod.fst = indices ∧
        ∃ b rest, c.rest = b ++ rest ∧ ValuesForm b (received.map Prod.snd) := by
  induction indices generalizing received c with
  | nil =>
      rw [readValues, PcrRound.mk.injEq, List.map_eq_nil_iff]
      constructor
      · rintro ⟨rfl, -⟩
        exact ⟨rfl, [], c.rest, rfl, rfl, nofun⟩
      · rintro ⟨rfl, -⟩
        exact ⟨rfl, rfl⟩
  | cons index indices ih =>
      rw [readValues]
      constructor
      · intro h
        split at h
        · cases h
        · rename_i value c' hSized
          obtain ⟨rfl, hFault⟩ := PcrRound.mk.inj h
          obtain ⟨_, hRest, -, rfl, hLt⟩ := (Reader.accepts_sized c c' value).mp hSized
          obtain ⟨hIndices, others, rest, hRest', hForm⟩ :=
            ih.mp (congrArg (PcrRound.mk (readValues indices c').received) hFault)
          refine ⟨congrArg (index :: ·) hIndices, Wire.sized value ++ others, rest, ?_,
            valuesForm_cons_iff.mpr ⟨others, rfl, hLt, hForm⟩⟩
          rw [hRest, hRest', List.append_assoc]
      · rintro ⟨hIndices, b, rest, hRest, hForm⟩
        cases received with
        | nil => cases hIndices
        | cons entry received =>
            obtain ⟨rfl, rfl⟩ := List.cons.inj hIndices
            obtain ⟨others, rfl, hLt, hOthers⟩ := valuesForm_cons_iff.mp hForm
            rw [List.append_assoc] at hRest
            let c' : Cursor := ⟨others ++ rest, c.offset + (Wire.sized entry.2).length⟩
            have hSized := (Reader.accepts_sized c c' entry.2).mpr ⟨_, hRest, rfl, rfl, hLt⟩
            have hRound := (ih (c := c')).mpr ⟨rfl, others, rest, rfl, hOthers⟩
            rw [hSized]
            dsimp only
            rw [hRound]

/-- Values that stand one after the other are read back. -/
theorem readValues_eq_ofDigests {digest : UInt8 → Bytes} {indices : List UInt8}
    (hFits : ∀ index ∈ indices, (digest index).length < 65536) (rest : Bytes) (offset : Nat) :
    readValues indices ⟨indices.flatMap (fun index => Wire.sized (digest index)) ++ rest, offset⟩ =
      ofDigests digest indices :=
  readValues_eq_iff.mpr ⟨map_fst_received_ofDigests digest indices, _, rest, rfl,
    valuesForm_ofDigests hFits⟩

/-- An answer with all values that it announces makes the round of their digests. -/
theorem read_eq_ofDigests {bank : Algorithm} {digest : UInt8 → Bytes} {indices : List UInt8}
    {head : Bytes} (hHead : HeadForm bank head indices)
    (hFits : ∀ index ∈ indices, (digest index).length < 65536) (missing : List UInt8)
    (rest : Bytes) :
    read bank missing (head ++ (indices.flatMap (fun index => Wire.sized (digest index)) ++ rest)) =
      ofDigests digest indices := by
  have hIndices := (accepts_readIndices bank missing (Cursor.start (head ++
    (indices.flatMap (fun index => Wire.sized (digest index)) ++ rest)))
    ⟨indices.flatMap (fun index => Wire.sized (digest index)) ++ rest, _⟩ indices).mpr
    ⟨head, rfl, rfl, hHead⟩
  rw [read, hIndices]
  exact readValues_eq_ofDigests hFits rest _

end PcrRound

/-! ### Honest answers -/

/-- What an honest TPM **chooses** to answer to a request: some of the requested indices, in
one entry. Entries of other banks name nothing. -/
structure PcrChoice (requested : Selection) where
  /-- The entry of the requested bank. -/
  chosen : Selection
  /-- The entries in front of it. -/
  before : List Selection
  /-- The entries behind it. -/
  after : List Selection
  /-- It is the bank that was asked for. -/
  bank_eq : chosen.bank = requested.bank
  /-- Something is chosen. -/
  ne_nil : chosen.indices ≠ []
  /-- Only what was asked for is chosen. -/
  subset : ∀ index ∈ chosen.indices, index ∈ requested.indices
  /-- The other entries are of other banks, and empty. -/
  others_empty : ∀ other ∈ before ++ after, other.bank ≠ requested.bank ∧ other.indices = []

namespace PcrChoice

variable {requested : Selection}

/-- All entries of an answer. -/
def entries (choice : PcrChoice requested) : List Selection :=
  choice.before ++ choice.chosen :: choice.after

/-- Selections of other banks have nothing for this one. -/
theorem filter_bank_eq_nil {bank : Algorithm} {others : List Selection}
    (h : ∀ other ∈ others, other.bank ≠ bank) : others.filter (·.bank == bank) = [] :=
  List.filter_eq_nil_iff.mpr fun other hOther => by simpa using h other hOther

/-- The indices that an answer names are those that were chosen. -/
theorem namedIndices_entries (choice : PcrChoice requested) :
    PcrRound.namedIndices requested.bank choice.entries = choice.chosen.indices := by
  have hBefore := filter_bank_eq_nil fun other hOther =>
    (choice.others_empty other (List.mem_append_left _ hOther)).1
  have hAfter := filter_bank_eq_nil fun other hOther =>
    (choice.others_empty other (List.mem_append_right _ hOther)).1
  rw [PcrRound.namedIndices, entries, List.filter_append, List.filter_cons_of_pos, hBefore, hAfter]
  · simp
  · simpa using choice.bank_eq

end PcrChoice

/-- An **honest answer** to a request for values: a response of success with any counter, the
entries of a choice, and the digests of the chosen PCRs in ascending order, with their number.
What follows them is left open. -/
def HonestAnswer (digest : UInt8 → Bytes) (requested : Selection) (response : Bytes) : Prop :=
  ∃ (choice : PcrChoice requested) (counter count : UInt32) (list rest : Bytes),
    SelectionList.Form list choice.entries ∧ count.toNat = choice.chosen.indices.length ∧
      Response.Succeeds response (Wire.u32 counter ++ list ++ Wire.u32 count ++
        (choice.chosen.indices.flatMap (fun index => Wire.sized (digest index)) ++ rest))

/-- **An honest answer makes a round** of some of the requested values. -/
theorem HonestAnswer.exists_round {digest : UInt8 → Bytes} {requested : Selection}
    {response : Bytes} (h : HonestAnswer digest requested response)
    (hFits : ∀ index ∈ requested.indices, (digest index).length < 65536) (missing : List UInt8) :
    ∃ indices, indices ≠ [] ∧ (∀ index ∈ indices, index ∈ requested.indices) ∧
      PcrRound.ofBody requested.bank missing (Response.bodyOf (.ok response)) =
        PcrRound.ofDigests digest indices := by
  obtain ⟨choice, counter, count, list, rest, hList, hCount, hSucceeds⟩ := h
  have hHead : PcrRound.HeadForm requested.bank (Wire.u32 counter ++ list ++ Wire.u32 count)
      choice.chosen.indices :=
    ⟨counter, count, list, choice.entries, hList, choice.namedIndices_entries.symm, choice.ne_nil,
      hCount, rfl⟩
  refine ⟨choice.chosen.indices, choice.ne_nil, choice.subset, ?_⟩
  rw [Response.bodyOf, Response.body_eq_ok_iff.mpr hSucceeds, PcrRound.ofBody]
  exact PcrRound.read_eq_ofDigests hHead
    (fun index hIndex => hFits index (choice.subset index hIndex)) missing rest

/-! ### Rounds -/

namespace PcrRound

variable {digest : UInt8 → Bytes} {missing indices : List UInt8}

/-- Behind a round what was missing is missing still, but for what came. -/
theorem mem_stillMissing_iff {round : PcrRound} {index : UInt8} :
    index ∈ round.stillMissing missing ↔
      index ∈ missing ∧ index ∉ round.received.map Prod.fst := by
  simp [stillMissing]

/-- A round leaves less just when it brings something that was **missing**. -/
theorem length_stillMissing_lt_iff (round : PcrRound) :
    (round.stillMissing missing).length < missing.length ↔
      ∃ index ∈ round.received.map Prod.fst, index ∈ missing := by
  rw [stillMissing, List.length_filter_lt_length_iff_exists]
  simp only [Bool.not_eq_true, Bool.not_eq_false', List.contains_iff_mem, and_comm]

/-- Behind a round with digests what was missing is missing still, but for the indices of the
round. -/
theorem mem_stillMissing_ofDigests_iff {index : UInt8} :
    index ∈ (ofDigests digest indices).stillMissing missing ↔
      index ∈ missing ∧ index ∉ indices := by
  rw [mem_stillMissing_iff, map_fst_received_ofDigests]

/-- A round that brings something that was missing leaves less. -/
theorem length_stillMissing_ofDigests_lt (digest : UInt8 → Bytes) (hSome : indices ≠ [])
    (hSubset : ∀ index ∈ indices, index ∈ missing) :
    ((ofDigests digest indices).stillMissing missing).length < missing.length := by
  obtain ⟨index, hIndex⟩ := List.exists_mem_of_ne_nil indices hSome
  rw [length_stillMissing_lt_iff, map_fst_received_ofDigests]
  exact ⟨index, hIndex, hSubset index hIndex⟩

end PcrRound

/-- A round of digests puts them in their slots, and leaves the others. An index that is named
twice has the same digest both times. -/
theorem PcrValues.get?_insertAll_ofDigests (v : PcrValues) (bank : Algorithm)
    (digest : UInt8 → Bytes) (indices : List UInt8) (slot : Slot) :
    (v.insertAll ((PcrRound.ofDigests digest indices).entries bank)).get? slot =
      if slot.bank = bank ∧ slot.index ∈ indices then some (digest slot.index)
      else v.get? slot := by
  induction indices generalizing v with
  | nil => simp [PcrRound.ofDigests, PcrRound.entries, insertAll]
  | cons index indices ih =>
      refine (ih (v.insert ⟨bank, index⟩ (digest index))).trans ?_
      obtain ⟨slotBank, slotIndex⟩ := slot
      simp only [get?_insert, Slot.mk.injEq, List.mem_cons]
      grind

/-- How far the reading of a selection has come: the values that are **known** are the digests
of the selected PCRs that are not missing. -/
structure PcrProgress (digest : UInt8 → Bytes) (s : Selection) (missing : List UInt8)
    (values : PcrValues) : Prop where
  /-- What is missing was selected. -/
  subset : ∀ index ∈ missing, index ∈ s.indices
  /-- What is known. -/
  get?_eq_some_iff : ∀ slot value, values.get? slot = some value ↔
    slot.bank = s.bank ∧ slot.index ∈ s.indices ∧ slot.index ∉ missing ∧ value = digest slot.index

namespace PcrProgress

variable {digest : UInt8 → Bytes} {s : Selection} {missing : List UInt8} {values : PcrValues}

/-- At the start, everything is missing. -/
theorem start (digest : UInt8 → Bytes) (s : Selection) :
    PcrProgress digest s s.indices .empty where
  subset _ hIndex := hIndex
  get?_eq_some_iff slot value := by
    simp only [PcrValues.get?_empty, reduceCtorEq, false_iff]
    rintro ⟨-, hSelected, hNotMissing, -⟩
    exact hNotMissing hSelected

/-- **What a round leaves in place.** -/
theorem next (h : PcrProgress digest s missing values) {indices : List UInt8}
    (hSubset : ∀ index ∈ indices, index ∈ missing) :
    PcrProgress digest s ((PcrRound.ofDigests digest indices).stillMissing missing)
      (values.insertAll ((PcrRound.ofDigests digest indices).entries s.bank)) where
  subset index hIndex := h.subset index (PcrRound.mem_stillMissing_ofDigests_iff.mp hIndex).1
  get?_eq_some_iff slot value := by
    rw [PcrValues.get?_insertAll_ofDigests, PcrRound.mem_stillMissing_ofDigests_iff]
    split
    case isTrue hBrought =>
      obtain ⟨hBank, hIndex⟩ := hBrought
      have hSelected := h.subset _ (hSubset _ hIndex)
      simp [hBank, hIndex, hSelected, eq_comm]
    case isFalse hNot =>
      -- A slot of the bank that the round does not bring is missing just when it was before.
      rw [h.get?_eq_some_iff slot value]
      refine and_congr_right fun hBank => ?_
      have hIndex : slot.index ∉ indices := fun hIndex => hNot ⟨hBank, hIndex⟩
      simp only [hIndex, not_false_eq_true, and_true]

end PcrProgress

/-! ### Sessions -/

section

variable {σ : Type}

/-- A transport to an **honest** TPM, in which the PCRs of a bank have these digests: in
whatever state it is, a command that asks for some of the selected values has an honest
answer. -/
def HonestTpm (transmit : Bytes → StateM σ (Except TransportFault Bytes))
    (digest : UInt8 → Bytes) (s : Selection) : Prop :=
  ∀ (requested : Selection) (command : Bytes), requested.AskedBy command →
    requested.bank = s.bank → requested.indices ≠ [] →
    (∀ index ∈ requested.indices, index ∈ s.indices) → ∀ state, ∃ response,
      (transmit command state).1 = .ok response ∧ HonestAnswer digest requested response

variable {transmit : Bytes → StateM σ (Except TransportFault Bytes)}
  {report : DeviceEvent → StateM σ Unit} {digest : UInt8 → Bytes} {s : Selection}

/-- The answer to a request for what is missing makes a round of some of it. -/
theorem HonestTpm.exists_round (hHonest : HonestTpm transmit digest s)
    (hFits : ∀ index ∈ s.indices, (digest index).length < 65536) {missing : List UInt8}
    (hSome : missing ≠ []) (hSubset : ∀ index ∈ missing, index ∈ s.indices) (state : σ) :
    ∃ indices, indices ≠ [] ∧ (∀ index ∈ indices, index ∈ missing) ∧
      PcrRound.ofBody s.bank missing (Response.bodyOf
        (transmit (Selection.ofIndices s.bank missing).readCommand state).1) =
          PcrRound.ofDigests digest indices := by
  have hRequested : ∀ index ∈ (Selection.ofIndices s.bank missing).indices, index ∈ s.indices :=
    fun index hIndex => hSubset index (Selection.mem_ofIndices_iff.mp hIndex)
  obtain ⟨first, hFirst⟩ := List.exists_mem_of_ne_nil missing hSome
  have hNonempty : (Selection.ofIndices s.bank missing).indices ≠ [] :=
    List.ne_nil_of_mem (Selection.mem_ofIndices_iff.mpr hFirst)
  obtain ⟨response, hResponse, hAnswer⟩ :=
    hHonest (.ofIndices s.bank missing) _ (Selection.askedBy_readCommand _) rfl hNonempty
      hRequested state
  obtain ⟨indices, hBrought, hMissing, hRound⟩ :=
    hAnswer.exists_round (fun index hIndex => hFits index (hRequested index hIndex)) missing
  rw [hResponse]
  exact ⟨indices, hBrought,
    fun index hIndex => Selection.mem_ofIndices_iff.mp (hMissing index hIndex), hRound⟩

/-- **The rest of a session** with an honest TPM: it brings what is missing, with at most one
command for each missing index. -/
theorem readMissing_of_honestTpm (report : DeviceEvent → StateM σ Unit)
    (hHonest : HonestTpm transmit digest s)
    (hFits : ∀ index ∈ s.indices, (digest index).length < 65536) {missing : List UInt8}
    {values : PcrValues} (hProgress : PcrProgress digest s missing values) (state : σ) :
    (∃ all, ((readMissing s.bank missing values).run transmit report state).1 = .ok all ∧
        PcrProgress digest s [] all) ∧
      ((readMissing s.bank missing values).exchanges transmit report state).length ≤
        missing.length := by
  -- The cases are the rounds of the session, and each has fewer indices missing than the last.
  induction missing, values using readMissing.induct s.bank generalizing state with
  | case1 missing values hNone =>
      obtain rfl : missing = [] := List.isEmpty_iff.mp hNone
      rw [readMissing, if_pos hNone, Session.run_done, Session.exchanges_done]
      exact ⟨⟨values, rfl, hProgress⟩, Nat.le_refl _⟩
  | case2 missing values hSome ih =>
      obtain ⟨indices, hBrought, hSubset, hRound⟩ := hHonest.exists_round hFits
        (mt List.isEmpty_iff.mpr hSome) hProgress.subset state
      have hLess := PcrRound.length_stillMissing_ofDigests_lt digest hBrought hSubset
      have hRest := ih (transmit (Selection.ofIndices s.bank missing).readCommand state).1
      rw [hRound] at hRest
      rw [readMissing, if_neg hSome, Session.run_send, Session.exchanges_send, hRound,
        Session.run_tellAll, Session.exchanges_tellAll]
      dsimp only [PcrRound.fault_ofDigests]
      rw [if_pos hLess, List.length_cons]
      obtain ⟨hEnd, hLength⟩ := hRest hLess (hProgress.next hSubset) _
      exact ⟨hEnd, Nat.lt_of_le_of_lt hLength hLess⟩

/-- **Reading PCRs from an honest TPM.** However it splits its answers, the session ends with
just the digests of the selected PCRs, after at most as many commands as there are selected
indices. -/
theorem Selection.readSession_of_honestTpm (digest : UInt8 → Bytes) (s : Selection)
    (hFits : ∀ index ∈ s.indices, (digest index).length < 65536)
    (hHonest : HonestTpm transmit digest s) (state : σ) :
    (∃ values, (s.readSession.run transmit report state).1 = .ok values ∧
      ∀ slot value, values.get? slot = some value ↔
        slot.bank = s.bank ∧ slot.index ∈ s.indices ∧ value = digest slot.index) ∧
    (s.readSession.exchanges transmit report state).length ≤ s.indices.length := by
  obtain ⟨⟨values, hRun, hEnd⟩, hLength⟩ :=
    readMissing_of_honestTpm report hHonest hFits (.start digest s) state
  refine ⟨⟨values, hRun, fun slot value => ?_⟩, hLength⟩
  simpa only [List.not_mem_nil, not_false_eq_true, true_and] using hEnd.get?_eq_some_iff slot value

end

namespace OneByOne

/-- The digests of the PCRs. -/
def digest (index : UInt8) : Bytes :=
  List.replicate 32 index

/-- The selection that is read. -/
def both : Selection :=
  ⟨.sha256, [0, 1], by decide⟩

/-- The selection of one index. -/
def single (index : UInt8) : Selection :=
  ⟨.sha256, [index], List.pairwise_singleton _ _⟩

/-- The selection of nothing, in another bank. -/
def idle : Selection :=
  ⟨.sha1, [], .nil⟩

/-- An answer with one value. An empty entry stands in front, and an octet follows. -/
def response (index : UInt8) : Bytes :=
  Wire.u16 TpmCommand.plainTag ++ Wire.u32 69 ++ Wire.u32 0 ++
    (Wire.u32 20 ++ SelectionList.write [idle, single index] ++ Wire.u32 1 ++
      (Wire.sized (digest index) ++ [0xff]))

/-- The command that asks for the values of the PCRs below 8 with a bit in this octet. -/
def asking (octet : UInt8) : Bytes :=
  [0x80, 0x01, 0, 0, 0, 20, 0, 0, 0x01, 0x7e, 0, 0, 0, 1, 0, 0x0b, 3, octet, 0, 0]

/-- A TPM that answers with the value of PCR 0, unless it is asked for that of PCR 1 only.
Nothing else has an answer. -/
def transmit (command : Bytes) : StateM Unit (Except TransportFault Bytes) :=
  pure <|
    if command = asking 2 then .ok (response 1)
    else if command = asking 1 ∨ command = asking 3 then .ok (response 0)
    else .error (.reported "unknown command")

/-- Both values can be had in a bank. -/
theorem inBank {index : UInt8} (hRange : index < pcrCount) :
    ∀ s ∈ [idle, single index], s.InBank := by
  simp only [List.mem_cons, List.not_mem_nil, or_false, forall_eq_or_imp, forall_eq]
  refine ⟨⟨rfl, nofun⟩, rfl, fun other hOther => ?_⟩
  rwa [List.mem_singleton.mp hOther]

/-- An answer with a value that was asked for is honest. -/
theorem honestAnswer {requested : Selection} {index : UInt8} (hBank : requested.bank = .sha256)
    (hIndex : index ∈ requested.indices) (hBoth : index ∈ both.indices) :
    HonestAnswer digest requested (response index) := by
  let choice : PcrChoice requested :=
    { chosen := single index
      before := [idle]
      after := []
      bank_eq := hBank.symm
      ne_nil := List.cons_ne_nil _ _
      subset := fun other hOther => List.mem_singleton.mp hOther ▸ hIndex
      others_empty := by simp [hBank, idle] }
  have hTwo : index = 0 ∨ index = 1 := by simpa [both] using hBoth
  have hRange : index < pcrCount := by rcases hTwo with rfl | rfl <;> decide
  refine ⟨choice, 20, 1, SelectionList.write [idle, single index], [0xff],
    SelectionList.form_write (Nat.le_add_right 2 14) (inBank hRange), rfl,
    TpmCommand.plainTag, 69, ?_, rfl⟩
  rcases hTwo with rfl | rfl <;> decide +kernel

/-- A request for some of the values has one of three forms. -/
theorem requested_cases {requested : Selection} (hBank : requested.bank = .sha256)
    (hSome : requested.indices ≠ []) (hSubset : ∀ index ∈ requested.indices, index ∈ both.indices) :
    requested = single 0 ∨ requested = single 1 ∨ requested = both := by
  have hTwo : ∀ index ∈ requested.indices, index = 0 ∨ index = 1 := fun index hIndex => by
    simpa [both] using hSubset index hIndex
  obtain ⟨first, hFirst⟩ := List.exists_mem_of_ne_nil _ hSome
  by_cases hZero : 0 ∈ requested.indices
  · by_cases hOne : 1 ∈ requested.indices
    · exact .inr (.inr (Selection.ext_mem hBank fun index => by grind [both]))
    · exact .inl (Selection.ext_mem hBank fun index => by grind [single])
  · exact .inr (.inl (Selection.ext_mem hBank fun index => by grind [single]))

/-- The TPM is honest: it answers the three commands that ask for some of the values. -/
theorem honestTpm : HonestTpm transmit digest both := by
  intro requested command hAsked hBank hSome hSubset state
  obtain rfl := Selection.askedBy_iff.mp hAsked
  rcases requested_cases hBank hSome hSubset with rfl | rfl | rfl
  · have hZero : (single 0).readCommand = asking 1 := by decide +kernel
    refine ⟨response 0, ?_, honestAnswer rfl (by decide) (by decide)⟩
    rw [hZero]
    rfl
  · have hOne : (single 1).readCommand = asking 2 := by decide +kernel
    refine ⟨response 1, ?_, honestAnswer rfl (by decide) (by decide)⟩
    rw [hOne]
    rfl
  · have hBoth : both.readCommand = asking 3 := by decide +kernel
    refine ⟨response 0, ?_, honestAnswer rfl (by decide) (by decide)⟩
    rw [hBoth]
    rfl

end OneByOne

/-- A TPM that gives one value at a time. -/
theorem Selection.readSession_of_honestTpm_one_by_one :
    (∃ values, (OneByOne.both.readSession.run OneByOne.transmit (fun _ => pure ()) ()).1 =
        .ok values ∧
      ∀ slot value, values.get? slot = some value ↔
        slot.bank = .sha256 ∧ slot.index ∈ [0, 1] ∧ value = OneByOne.digest slot.index) ∧
    (OneByOne.both.readSession.exchanges OneByOne.transmit (fun _ => pure ()) ()).length ≤ 2 :=
  readSession_of_honestTpm OneByOne.digest OneByOne.both
    (fun _ _ => by rw [OneByOne.digest, List.length_replicate]; decide) OneByOne.honestTpm ()

end RemoteAttestation
