import RemoteAttestation.Proofs.CommandLine.PcrFile
import RemoteAttestation.Proofs.CommandLine.Surroundings
import RemoteAttestation.Proofs.Device.PcrRounds

/-!
# Printing PCR Values

The values of several selections are read one selection after the other, and put together in
one file. As far as the device is concerned, all this is one session (`Selection.readAll`), so
what is said of it holds for every transport.

The file is read back as the values that were read when each has the size of its bank's digests
(`PcrValues.Sized`). Nobody checks this while the values are read: an answer may deliver values
of any size, and then the file that is printed is refused, with a complaint about the size of a
value. It is always good when the answers deliver values of the right sizes only
(`DeliversSized`).

## Main results

* `Command.run_readSelections`: reading several selections is one session.
* `Selection.exists_reads`: what such a session ends with.
* `exists_readAll_of_run_pcrs`: what the program prints comes from such a session.
* `Command.pcrs_output_readable`: when the printed values are read back, and what happens if not.
* `Command.pcrs_output_refused`: printed values that are refused.
-/

namespace RemoteAttestation

open PcrAnswer

/-! ### One session for all selections -/

/-- The session that reads **several selections** and adds their values to `values`. -/
def Selection.readAll (values : PcrValues) :
    List Selection → Session (Except CommandFault PcrValues)
  | [] => .done (.ok values)
  | s :: rest => s.readSession.bind fun
    | .error fault => .done (.error (.pcrRead s.bank fault))
    | .ok read => readAll (values.insertAll read.toList) rest

/-- A session in two parts is carried out part by part. -/
theorem Interaction.ofSession_bind {α β : Type} (session : Session α) (f : α → Session β) :
    ofSession (session.bind f) = (ofSession session).bind fun result => ofSession (f result) := by
  induction session with
  | done result => rfl
  | tell event next ih => exact congrArg (Interaction.tell event.notice) ih
  | send command next ih => exact congrArg (Interaction.send command) (funext ih)

/-- A command that goes on behind a session is the session with what follows. -/
theorem Command.run_session_bind {α β : Type} (s : Session α) (f : α → Command β) :
    (session s >>= f).run = (Interaction.ofSession s).bind fun result => (f result).run := by
  induction s with
  | done result => rfl
  | tell event next ih => exact congrArg (Interaction.tell event.notice) ih
  | send command next ih => exact congrArg (Interaction.send command) (funext ih)

/-- **Reading several selections** is one session. -/
theorem Command.run_readSelections (values : PcrValues) (selections : List Selection) :
    (readSelections values selections).run =
      Interaction.ofSession (Selection.readAll values selections) := by
  induction selections generalizing values with
  | nil => rfl
  | cons s rest ih =>
      rw [readSelections, run_session_bind, Selection.readAll, Interaction.ofSession_bind]
      refine congrArg (Interaction.bind _) (funext fun result => ?_)
      cases result with
      | error fault => rfl
      | ok read => exact ih (values.insertAll read.toList)

/-! ### What is read -/

/-- Values **put together**, the later over the earlier. -/
def PcrValues.merge (values : PcrValues) (reads : List PcrValues) : PcrValues :=
  reads.foldl (fun values read => values.insertAll read.toList) values

/-- Of the values that are put together for a slot **the last counts**. -/
theorem PcrValues.get?_merge (values : PcrValues) (reads : List PcrValues) (slot : Slot) :
    (values.merge reads).get? slot =
      (reads.reverse.findSome? (·.get? slot)).or (values.get? slot) := by
  induction reads generalizing values with
  | nil => rfl
  | cons read reads ih =>
      refine (ih (values.insertAll read.toList)).trans ?_
      rw [get?_insertAll_toList, List.reverse_cons, List.findSome?_append, Option.or_assoc]
      cases hRead : read.get? slot <;> simp [hRead]

section

variable {σ : Type} {transmit : Bytes → StateM σ (Except TransportFault Bytes)}
  {report : DeviceEvent → StateM σ Unit} {state : σ} {selections : List Selection}
  {values all : PcrValues}

/-- **What a session for several selections ends with**: the values that were read for each of
them, put together. Its exchanges are those of the sessions for each. -/
theorem Selection.exists_reads
    (h : ((readAll values selections).run transmit report state).1 = .ok all) :
    ∃ reads : List PcrValues, all = values.merge reads ∧
      List.Forall₂ (fun s read => ∃ before,
        (s.readSession.run transmit report before).1 = .ok read ∧
          s.readSession.exchanges transmit report before ⊆
            (readAll values selections).exchanges transmit report state) selections reads := by
  induction selections generalizing values state with
  | nil => exact ⟨[], (Except.ok.inj h).symm, .nil⟩
  | cons s rest ih =>
      rw [readAll, Session.run_bind] at h
      cases hFirst : (s.readSession.run transmit report state).1 with
      | error fault =>
          rw [hFirst] at h
          cases h
      | ok read =>
          rw [hFirst] at h
          obtain ⟨reads, hAll, hReads⟩ := ih h
          refine ⟨read :: reads, hAll, .cons ⟨state, hFirst, ?_⟩ (hReads.imp ?_)⟩
          · rw [readAll, Session.exchanges_bind]
            exact List.subset_append_left _ _
          · rintro other otherRead ⟨before, hRun, hSubset⟩
            refine ⟨before, hRun, List.Subset.trans hSubset ?_⟩
            rw [readAll, Session.exchanges_bind, hFirst]
            exact List.subset_append_right _ _

/-- **Each command** of such a session asks for something of one of the selections. -/
theorem Selection.exists_request_of_readAll {exchange : Exchange}
    (h : exchange ∈ (readAll values selections).exchanges transmit report state) :
    ∃ s ∈ selections, ∃ requested : Selection, requested.AskedBy exchange.1 ∧
      requested.bank = s.bank ∧ requested.indices ≠ [] ∧
        ∀ index ∈ requested.indices, index ∈ s.indices := by
  induction selections generalizing values state with
  | nil => cases h
  | cons s rest ih =>
      rw [readAll, Session.exchanges_bind] at h
      rcases List.mem_append.mp h with hFirst | hRest
      · have hReading := reading_readSession s transmit report state
        exact ⟨s, List.mem_cons_self, hReading.exists_request_of_mem hFirst⟩
      · cases hResult : (s.readSession.run transmit report state).1 with
        | error fault =>
            rw [hResult] at hRest
            cases hRest
        | ok read =>
            rw [hResult] at hRest
            obtain ⟨other, hOther, hRequested⟩ := ih hRest
            exact ⟨other, List.mem_cons_of_mem _ hOther, hRequested⟩

/-- Each value that was read was **delivered** in an answer. -/
theorem Selection.exists_delivers_of_readAll
    (h : ((readAll .empty selections).run transmit report state).1 = .ok all) {slot : Slot}
    {value : Bytes} (hValue : all.get? slot = some value) :
    ∃ s ∈ selections, slot.bank = s.bank ∧
      ∃ exchange ∈ (readAll .empty selections).exchanges transmit report state,
        ∃ received, Delivers s.bank exchange.2 received ∧ (slot.index, value) ∈ received := by
  obtain ⟨reads, rfl, hReads⟩ := exists_reads h
  rw [PcrValues.get?_merge, PcrValues.get?_empty, Option.or_none] at hValue
  obtain ⟨read, hRead, hGet⟩ := List.exists_of_findSome?_eq_some hValue
  obtain ⟨s, hs, before, hRun, hSubset⟩ :=
    exists_of_mem_of_forall₂ hReads.flip (List.mem_reverse.mp hRead)
  have hReading := reading_readSession s transmit report before
  rw [hRun] at hReading
  obtain ⟨hBank, hLast⟩ := hReading.get?_eq_some_iff_of_empty.mp hGet
  obtain ⟨exchange, hExchange, received, hDelivers, hEntry⟩ := hLast.exists_delivers
  exact ⟨s, hs, hBank, exchange, hSubset hExchange, received, hDelivers, hEntry⟩

/-- The values of valid selections are in slots of **hash** banks. -/
theorem Selection.isHash_of_readAll (hValid : ∀ s ∈ selections, s.Valid)
    (h : ((readAll .empty selections).run transmit report state).1 = .ok all) (slot : Slot)
    (value : Bytes) (hValue : all.get? slot = some value) : slot.bank.isHash = true := by
  obtain ⟨s, hs, hBank, -⟩ := exists_delivers_of_readAll h hValue
  rw [hBank]
  exact (valid_iff.mp (hValid s hs)).1.isHash

end

/-! ### What is printed -/

/-- What is **printed** of some values. -/
def PcrValues.printed (values : PcrValues) : String :=
  Outcome.output ⟨some values.file, none⟩

section

variable {σ : Type} {E : Surroundings σ} {state : σ}

/-- **What `pcrs` ends with** when it succeeds: the values of valid selections, read with the
transport to the device. -/
theorem Command.exists_readAll_of_pcrs {flags : Flags} {outcome : Outcome}
    (h : ((pcrs flags).episode E state).result = .ok outcome) :
    ∃ (selections : List Selection) (values : PcrValues) (opened : σ),
      (∀ s ∈ selections, s.Valid) ∧
      ((Selection.readAll .empty selections).run E.send (fun _ => pure ()) opened).1 =
        .ok values ∧
      outcome = ⟨some values.file, none⟩ := by
  obtain ⟨settings, -, h⟩ := result_bind_eq_ok_iff.mp h
  obtain ⟨selections, hSelections, h⟩ := result_bind_eq_ok_iff.mp h
  obtain ⟨-, -, h⟩ := result_bind_eq_ok_iff.mp h
  obtain ⟨values, hValues, h⟩ := result_bind_eq_ok_iff.mp h
  rw [episode_ofExcept, mapError_eq_ok_iff] at hSelections
  rw [episode, run_readSelections, Interaction.episode_ofSession] at hValues
  refine ⟨selections, values, _, fun s hs => ?_, hValues, (Except.ok.inj h).symm⟩
  obtain ⟨bank, -, hMake⟩ := (mem_of_mapM_eq_ok hSelections).mp hs
  exact ⟨bank.bank, bank.indices, hMake⟩

/-- **What the program prints** when it is run as `pcrs`: if anything, then the values of valid
selections, read with the transport to the device. -/
theorem exists_readAll_of_run_pcrs {arguments : List String}
    (h : ((run ("pcrs" :: arguments)).episode E state).result.output ≠ "") :
    ∃ (selections : List Selection) (values : PcrValues) (opened : σ),
      (∀ s ∈ selections, s.Valid) ∧
      ((Selection.readAll .empty selections).run E.send (fun _ => pure ()) opened).1 =
        .ok values ∧
      ((run ("pcrs" :: arguments)).episode E state).result.output = values.printed := by
  rw [episode_run] at h ⊢
  cases hResult : ((Command.ofArguments ("pcrs" :: arguments)).episode E state).result with
  | error fault =>
      rw [hResult] at h
      exact absurd rfl h
  | ok outcome =>
      obtain ⟨flags, -, hPcrs⟩ := Command.result_bind_eq_ok_iff.mp hResult
      obtain ⟨selections, values, opened, hValid, hRun, rfl⟩ :=
        Command.exists_readAll_of_pcrs hPcrs
      exact ⟨selections, values, opened, hValid, hRun, rfl⟩

end

/-- An exchange that delivers values of the **right size** only, if it delivers any. -/
def DeliversSized (bank : Algorithm) (exchange : Exchange) : Prop :=
  ∀ received, Delivers bank exchange.2 received →
    ∀ entry ∈ received, bank.digestSize? = some entry.2.length

/-- **Printed values are read back** as what was read of the selections, put together, just
when each has the size of its bank's digests. If one has not, the fault is the size of such a
value. When no answer delivers values of another size, they are always read back. What the
program prints when it is run as `pcrs`, in whatever surroundings, are such values. -/
theorem Command.pcrs_output_readable {σ : Type}
    (transmit : Bytes → StateM σ (Except TransportFault Bytes))
    (report : DeviceEvent → StateM σ Unit) (state : σ) {selections : List Selection}
    {values : PcrValues}
    (hValid : ∀ s ∈ selections, s.Valid)
    (hRun : ((Selection.readAll .empty selections).run transmit report state).1 = .ok values) :
    (readSelections .empty selections).run =
      Interaction.ofSession (Selection.readAll .empty selections) ∧
    (∃ reads : List PcrValues, values = PcrValues.empty.merge reads ∧
      List.Forall₂ (fun s read => ∃ before, (s.readSession.run transmit report before).1 = .ok read)
        selections reads) ∧
    (PcrValues.ofText values.printed = .ok values ↔ values.Sized) ∧
    (¬ values.Sized → ∃ slot value size, values.get? slot = some value ∧
      slot.bank.digestSize? = some size ∧ value.length ≠ size ∧ PcrValues.ofText values.printed =
        .error (.wrongSize slot.bank.name slot.index value.length size)) ∧
    ((∀ exchange ∈ (Selection.readAll .empty selections).exchanges transmit report state,
        ∀ s ∈ selections, DeliversSized s.bank exchange) → values.Sized) ∧
    ∀ (E : Surroundings σ) (start : σ) (arguments : List String),
      ((run ("pcrs" :: arguments)).episode E start).result.output ≠ "" →
      ∃ (selections : List Selection) (values : PcrValues) (opened : σ),
        (∀ s ∈ selections, s.Valid) ∧
        ((Selection.readAll .empty selections).run E.send (fun _ => pure ()) opened).1 =
          .ok values ∧
        ((run ("pcrs" :: arguments)).episode E start).result.output = values.printed := by
  have hRefused : ¬ values.Sized → _ := fun hNot =>
    PcrValues.ofText_file_of_not_sized hNot (Selection.isHash_of_readAll hValid hRun) "\n"
      (.inr rfl)
  refine ⟨run_readSelections _ _, ?_, ⟨fun hRead => ?_, fun hSized => ?_⟩, hRefused,
    fun hAnswers slot value hGet => ?_, fun E start arguments => exists_readAll_of_run_pcrs⟩
  · obtain ⟨reads, hValues, hReads⟩ := Selection.exists_reads hRun
    exact ⟨reads, hValues, hReads.imp fun s read ⟨before, hRun, _⟩ => ⟨before, hRun⟩⟩
  · by_contra hNot
    obtain ⟨slot, value, size, -, -, -, hFault⟩ := hRefused hNot
    cases hRead.symm.trans hFault
  · exact PcrValues.ofText_file hSized "\n" (.inr rfl)
  · obtain ⟨s, hs, hBank, exchange, hExchange, received, hDelivers, hEntry⟩ :=
      Selection.exists_delivers_of_readAll hRun hGet
    rw [hBank]
    exact hAnswers exchange hExchange s hs received hDelivers _ hEntry

namespace ShortDigest

/-- What should be a digest. -/
def digest (_ : UInt8) : Bytes :=
  [0xaa]

/-- The selection that is read. -/
def selected : Selection :=
  OneByOne.single 0

/-- A TPM that answers every command with one octet as the value of PCR 0. -/
def transmit (_ : Bytes) : StateM Unit (Except TransportFault Bytes) :=
  pure (.ok (plain digest selected))

/-- What is read of the selection. -/
def read : PcrValues :=
  .insertAll .empty (PcrRound.entries .sha256 (PcrRound.ofDigests digest [0]))

/-- What is read in all. -/
def values : PcrValues :=
  .insertAll .empty read.toList

/-- The selection is one of a bank that can be asked for. -/
theorem inBank : selected.InBank :=
  ⟨rfl, List.forall_mem_singleton.mpr (by decide)⟩

/-- The selection is valid. -/
theorem valid : ∀ s ∈ [selected], s.Valid :=
  List.forall_mem_singleton.mpr (Selection.valid_iff.mpr ⟨inBank, List.cons_ne_nil _ _⟩)

/-- The response delivers the short digest and nothing else. -/
theorem delivers : Delivers .sha256 (.ok (plain digest selected))
    (PcrRound.ofDigests digest [0]).received :=
  delivers_plain inBank (List.cons_ne_nil _ _)
    (List.forall_mem_singleton.mpr (by decide)) (by decide +kernel)

/-- The short digest is read without complaint. -/
theorem run_readAll :
    ((Selection.readAll .empty [selected]).run transmit (fun _ => pure ()) ()).1 = .ok values := by
  have hRead : (selected.readSession.run transmit (fun _ => pure ()) ()).1 = .ok read :=
    Selection.run_readSession_of_delivers (List.cons_ne_nil _ _) delivers
      (List.forall_mem_singleton.mpr (by decide))
  rw [Selection.readAll, Session.run_bind, hRead]
  rfl

/-- The value has not the size of a digest. -/
theorem not_sized : ¬ values.Sized := by
  intro h
  have hGet : values.get? ⟨.sha256, 0⟩ = some [0xaa] := by
    rw [values, PcrValues.get?_insertAll_toList, read, PcrValues.get?_insertAll_ofDigests,
      if_pos (by decide)]
    rfl
  exact absurd (h _ _ hGet) (by decide)

end ShortDigest

/-- A TPM that gives a value of another size. -/
theorem Command.pcrs_output_readable_of_short_digest :
    (∀ s ∈ [ShortDigest.selected], s.Valid) ∧
    ((Selection.readAll .empty [ShortDigest.selected]).run ShortDigest.transmit
      (fun _ => pure ()) ()).1 = .ok ShortDigest.values ∧
    ∃ slot value size, ShortDigest.values.get? slot = some value ∧
      slot.bank.digestSize? = some size ∧ value.length ≠ size ∧
        PcrValues.ofText ShortDigest.values.printed =
          .error (.wrongSize slot.bank.name slot.index value.length size) :=
  ⟨ShortDigest.valid, ShortDigest.run_readAll,
    (pcrs_output_readable _ _ _ ShortDigest.valid ShortDigest.run_readAll).2.2.2.1
      ShortDigest.not_sized⟩

/-- Printed values may be **refused**. -/
theorem Command.pcrs_output_refused :
    ¬ ∀ (selections : List Selection) (transmit : Bytes → StateM Unit (Except TransportFault Bytes))
      (values : PcrValues), selections ≠ [] → (∀ s ∈ selections, s.Valid) →
        ((Selection.readAll .empty selections).run transmit (fun _ => pure ()) ()).1 = .ok values →
          PcrValues.ofText values.printed = .ok values := by
  intro h
  have hRead := h _ _ _ (List.cons_ne_nil _ _) ShortDigest.valid ShortDigest.run_readAll
  obtain ⟨slot, value, size, -, -, -, hFault⟩ :=
    PcrValues.ofText_file_of_not_sized ShortDigest.not_sized
      (Selection.isHash_of_readAll ShortDigest.valid ShortDigest.run_readAll) "\n" (.inr rfl)
  cases hRead.symm.trans hFault

end RemoteAttestation
