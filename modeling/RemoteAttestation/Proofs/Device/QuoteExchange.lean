import RemoteAttestation.Proofs.Device.Quoting
import RemoteAttestation.Proofs.Device.Record
import RemoteAttestation.Proofs.Results

/-!
# What a Session for a Quote Exchanges

A session for a quote has one exchange. It ends with a quote just when the answer is a response
that carries one, and with the failure of the device otherwise, whatever the transport does.

The sizes in a response are checked against each other by differences. A difference of natural
numbers stops at zero, which would hide a wrong order of two sizes; so the reader is compared
with one whose differences fail instead (`Quote.readChecked`). The two never disagree: an
offset is never smaller than one before it, and what an area has left is taken only behind the
check that it is not negative.

## Main results

* `Quote.readChecked_eq`: no difference of sizes is negative.
* `QuoteRequest.session_exchange`: the one exchange, and what the session makes of it.
-/

namespace RemoteAttestation

/-! ### Readers at a cursor -/

namespace Reader

variable {ε ε' α β : Type}

/-- Two continuations that agree wherever a reader ends. -/
theorem bind_apply_congr {reader : Reader ε α} {f g : α → Reader ε β} {c : Cursor}
    (h : ∀ a c', reader c = .ok a c' → f a c' = g a c') :
    (reader >>= f) c = (reader >>= g) c := by
  change EStateM.bind reader f c = EStateM.bind reader g c
  rw [EStateM.bind, EStateM.bind]
  cases hRun : reader c with
  | ok a c' => exact h a c' hRun
  | error fault c' => rfl

/-- Faults of another type, through a sequence of readers. -/
theorem orFail_bind (reader : Reader ε α) (f : α → Reader ε β) (fault : ε → ε') :
    (reader >>= f).orFail fault = reader.orFail fault >>= fun a => (f a).orFail fault := by
  funext c
  change EStateM.adaptExcept fault (EStateM.bind reader f) c =
    EStateM.bind (EStateM.adaptExcept fault reader) (fun a => (f a).orFail fault) c
  rw [EStateM.adaptExcept, EStateM.bind, EStateM.bind, EStateM.adaptExcept]
  cases reader c with
  | ok a c' => rfl
  | error e c' => rfl

/-- Two continuations that agree wherever a condition lets them be reached. -/
theorem guard_apply_congr {p : Prop} [Decidable p] {fault : ε} {f g : Unit → Reader ε α}
    {c : Cursor} (h : ¬ p → f () c = g () c) :
    (if p then throw fault >>= f else f ()) c = (if p then throw fault >>= g else g ()) c := by
  by_cases hp : p
  · rw [if_pos hp, if_pos hp]
    rfl
  · rw [if_neg hp, if_neg hp, h hp]

/-- A guard in a reader fails with the fault in its new form. -/
theorem orFail_guard {p : Prop} [Decidable p] (e : ε) (next : Unit → Reader ε α) (fault : ε → ε') :
    (if p then throw e >>= next else next () : Reader ε α).orFail fault =
      if p then throw (fault e) >>= fun u => (next u).orFail fault else (next ()).orFail fault := by
  by_cases hp : p
  · rw [if_pos hp, if_pos hp, orFail_bind]
    rfl
  · rw [if_neg hp, if_neg hp]

/-- The position is known without a fault. -/
theorem orFail_offset (fault : ε → ε') : (offset : Reader ε Nat).orFail fault = offset := rfl

theorem orFail_remaining (fault : ε → ε') :
    (remaining : Reader ε Nat).orFail fault = remaining := rfl

theorem orFail_pure (a : α) (fault : ε → ε') : (pure a : Reader ε α).orFail fault = pure a := rfl

/-- What follows the position goes on with it. -/
theorem offset_bind_apply (f : Nat → Reader ε α) (c : Cursor) :
    (offset >>= f) c = f c.offset c := rfl

theorem remaining_bind_apply (f : Nat → Reader ε α) (c : Cursor) :
    (remaining >>= f) c = f c.rest.length c := rfl

/-- A **difference** that is not negative, or a failure that no reader gives by itself. -/
def difference (m n : Nat) : Reader (Option ε) Nat :=
  if n ≤ m then return m - n else throw none

/-- Where nothing becomes negative, a difference is what it is. -/
theorem difference_of_le {m n : Nat} (h : n ≤ m) :
    (difference m n : Reader (Option ε) Nat) = pure (m - n) := if_pos h

end Reader

namespace Quote

open Reader

/-- The reader of a **quote** from a body of a known length, with all differences checked. -/
def readChecked (length : Nat) : Reader (Option QuoteFault) Quote := do
  let size ← (Reader.u32.orFail QuoteFault.underflow).orFail some
  let start ← Reader.offset
  let available ← difference length (← Reader.offset)
  if available < size.toNat then throw (some (.areaTooLarge size available))
  let attestation ← (Reader.sized.orFail QuoteFault.underflow).orFail some
  let used ← difference (← Reader.offset) start
  if size.toNat < used then throw (some (.areaTooSmall size used))
  let left ← difference size.toNat used
  let signature ← ((Reader.take left).orFail QuoteFault.underflow).orFail some
  if signature.length < 2 then throw (some .noSignature)
  return ⟨attestation, signature⟩

/-- **No difference of sizes is negative.** -/
theorem readChecked_eq {length : Nat} {c : Cursor} (h : c.offset + c.rest.length = length) :
    readChecked length c = read.orFail some c := by
  simp only [readChecked, read, orFail_bind, orFail_guard, orFail_offset, orFail_remaining,
    orFail_pure]
  refine bind_apply_congr fun size c₁ hSize => ?_
  have hLength := (((accepts_u32.orFail _).orFail _).offset_add_length hSize).trans h
  have hAvailable : length - c₁.offset = c₁.rest.length := by omega
  rw [offset_bind_apply, offset_bind_apply, offset_bind_apply, remaining_bind_apply,
    difference_of_le (hLength ▸ Nat.le_add_right _ _), pure_bind, hAvailable]
  refine guard_apply_congr fun _ => bind_apply_congr fun attestation c₂ hAttestation => ?_
  have hForward := ((accepts_sized.orFail _).orFail _).offset_le hAttestation
  rw [offset_bind_apply, offset_bind_apply, difference_of_le hForward, pure_bind]
  refine guard_apply_congr fun hUsed => ?_
  rw [difference_of_le (Nat.not_lt.mp hUsed), pure_bind]

/-- With its differences checked the reader reads **the same**, so none of them is ever
negative. -/
theorem parse_readChecked (body : Bytes) :
    (readChecked body.length).parse body = (read.parse body).mapError some := by
  have hStart : (Cursor.start body).offset + (Cursor.start body).rest.length = body.length :=
    Nat.zero_add _
  rw [parse, parse, readChecked_eq hStart, orFail, EStateM.adaptExcept]
  cases read (Cursor.start body) with
  | ok q c => rfl
  | error fault c => rfl

end Quote

/-! ### Sessions -/

variable {σ : Type} (transmit : Bytes → StateM σ (Except TransportFault Bytes))
  (report : DeviceEvent → StateM σ Unit)

/-- The first exchange of a session that sends a command is of that command. -/
theorem Session.exchanges_request {α : Type} (command : Bytes)
    (next : Except ResponseFault Bytes → Session α) (state : σ) :
    (request command >>= next).exchanges transmit report state =
      (command, (transmit command state).1) ::
        (next (Response.bodyOf (transmit command state).1)).exchanges transmit report
          (transmit command state).2 :=
  exchanges_send _ _ _

namespace QuoteRequest

/-- The answer that the command of a request has from a transport that was told of the
request. -/
def answer (request : QuoteRequest) (state : σ) : Except TransportFault Bytes :=
  (transmit request.command (report (.quoteRequested request) state).2).1

/-- A session for a quote has **one exchange**. -/
theorem exchanges_session (request : QuoteRequest) (state : σ) :
    request.session.exchanges transmit report state =
      [(request.command, request.answer transmit report state)] := by
  rw [session, Session.exchanges_tell, Session.exchanges_request, ← answer]
  cases Quote.ofBody (Response.bodyOf (request.answer transmit report state)) with
  | error cause => rfl
  | ok q => rfl

/-- A session for a quote ends with what its answer makes of it. -/
theorem run_session_of_answer (request : QuoteRequest) (state : σ) :
    (request.session.run transmit report state).1 =
      (Quote.ofBody (Response.bodyOf (request.answer transmit report state))).mapError
        (⟨request.keyHandle, ·⟩) := by
  rw [session, Session.run_tell, Session.run_request, ← answer]
  cases Quote.ofBody (Response.bodyOf (request.answer transmit report state)) with
  | error cause => rfl
  | ok q => rfl

/-- A session ends with a quote when its answer is a response that carries one. -/
theorem run_session_eq_ok_iff {request : QuoteRequest} {state : σ} {q : Quote} :
    (request.session.run transmit report state).1 = .ok q ↔
      ∃ response, request.answer transmit report state = .ok response ∧
        Quote.Carries response q := by
  rw [run_session_of_answer, mapError_eq_ok_iff]
  cases request.answer transmit report state with
  | error fault =>
      simp only [reduceCtorEq, false_and, exists_false, iff_false]
      exact nofun
  | ok response => simp only [Quote.ofResponse_eq_ok_iff, Except.ok.injEq, exists_eq_left']

/-- **The exchange for a quote.** Whatever the transport does, the session sends one command,
which is that of the request. It ends with a quote just when the answer is a response that
carries the quote, and otherwise with a failure of the device. No difference of sizes on the
way is negative. -/
theorem session_exchange (request : QuoteRequest) (state : σ) :
    ∃ answer,
      request.session.exchanges transmit report state = [(request.command, answer)] ∧
      (∀ q, (request.session.run transmit report state).1 = .ok q ↔
        ∃ response, answer = .ok response ∧ Quote.Carries response q) ∧
      ((¬ ∃ q response, answer = .ok response ∧ Quote.Carries response q) →
        ∃ cause, (request.session.run transmit report state).1 =
          .error ⟨request.keyHandle, cause⟩) ∧
      ∀ body, (Quote.readChecked body.length).parse body =
        (Quote.read.parse body).mapError some := by
  refine ⟨request.answer transmit report state, exchanges_session transmit report request state,
    fun q => run_session_eq_ok_iff transmit report, fun hNone => ?_, Quote.parse_readChecked⟩
  cases hRun : (request.session.run transmit report state).1 with
  | ok q => exact absurd ⟨q, (run_session_eq_ok_iff transmit report).mp hRun⟩ hNone
  | error failure =>
      rw [run_session_of_answer] at hRun
      cases hQuote : Quote.ofBody (Response.bodyOf (request.answer transmit report state)) with
      | ok q => rw [hQuote] at hRun; cases hRun
      | error cause =>
          rw [hQuote, mapError_error] at hRun
          exact ⟨cause, hRun.symm⟩

end QuoteRequest

end RemoteAttestation
