import RemoteAttestation.Device.Session

/-!
# Records of Sessions

What a session sends can be seen by whoever carries its commands. A transport that keeps a
record adds each command and the answer to it (`recorded`), and the record of a session that is
run with it is the list of its exchanges (`Session.exchanges`). Keeping the record changes
nothing: the session ends as it would without (`Session.runRecorded_eq`).

The transport may be any at all. It has a state of its own, so an answer may depend on all
commands before it, and so may what is done with the events that the session tells.

## Main results

* `Session.runRecorded_eq`: a recorded run is the run with its exchanges.
* `Session.exchanges_send`, `Session.exchanges_tellAll`: the exchanges of a session step by step.
* `Session.run_bind`, `Session.exchanges_bind`: one session after another.
-/

namespace RemoteAttestation

/-- A command with the answer that it had. -/
abbrev Exchange := Bytes × Except TransportFault Bytes

variable {α σ : Type} (transmit : Bytes → StateM σ (Except TransportFault Bytes))
  (report : DeviceEvent → StateM σ Unit)

/-- A transport that keeps a **record** of its exchanges. -/
def recorded (command : Bytes) :
    StateT (List Exchange) (StateM σ) (Except TransportFault Bytes) := do
  let answer ← transmit command
  modify (· ++ [(command, answer)])
  return answer

namespace Session

/-- A session that is run with a transport that keeps a record. -/
def runRecorded (session : Session α) : StateT (List Exchange) (StateM σ) α :=
  session.run (recorded transmit) fun event => StateT.lift (report event)

/-- The **exchanges** of a session: its commands, in their order, with the answers to them. -/
def exchanges (session : Session α) (state : σ) : List Exchange :=
  ((session.runRecorded transmit report).run [] state).1.2

variable {transmit report}

/-! ### Steps of a run -/

/-- A session that is over has its result. -/
@[simp] theorem run_done (result : α) (state : σ) :
    (done result).run transmit report state = (result, state) := rfl

/-- A session that sends a command goes on with the response. -/
theorem run_send (command : Bytes) (next : Except TransportFault Bytes → Session α) (state : σ) :
    (send command next).run transmit report state =
      (next (transmit command state).1).run transmit report (transmit command state).2 := rfl

/-- Two sessions run one after the other. -/
theorem run_bind {β : Type} (session : Session α) (f : α → Session β) (state : σ) :
    (session.bind f).run transmit report state =
      (f (session.run transmit report state).1).run transmit report
        (session.run transmit report state).2 := by
  induction session generalizing state with
  | done result => rfl
  | tell event next ih => exact ih (report event state).2
  | send command next ih => exact ih _ (transmit command state).2

/-- Events are told one after the other, and then the session goes on. -/
theorem run_tellAll (events : List DeviceEvent) (next : Session α) (state : σ) :
    (tellAll events next).run transmit report state =
      next.run transmit report
        (events.foldl (fun state event => (report event state).2) state) := by
  induction events generalizing state with
  | nil => rfl
  | cons event events ih => exact ih (report event state).2

/-! ### Steps of a record -/

/-- A command that is sent is put at the end of the record, with the response. -/
theorem runRecorded_send (command : Bytes) (next : Except TransportFault Bytes → Session α)
    (record : List Exchange) (state : σ) :
    ((send command next).runRecorded transmit report).run record state =
      ((next (transmit command state).1).runRecorded transmit report).run
        (record ++ [(command, (transmit command state).1)]) (transmit command state).2 := rfl

/-- **A recorded run** ends as the run does, with the exchanges behind the record that was
there. -/
theorem runRecorded_eq (session : Session α) (record : List Exchange) (state : σ) :
    (session.runRecorded transmit report).run record state =
      (((session.run transmit report state).1, record ++ session.exchanges transmit report state),
        (session.run transmit report state).2) := by
  induction session generalizing record state with
  | done result =>
      change ((result, record), state) = ((result, record ++ []), state)
      rw [List.append_nil]
  | tell event next ih => exact ih record (report event state).2
  | send command next ih =>
      -- The record begins with this exchange, whatever was recorded before it.
      have hExchanges : (send command next).exchanges transmit report state =
          [(command, (transmit command state).1)] ++
            (next (transmit command state).1).exchanges transmit report
              (transmit command state).2 := by
        rw [exchanges, runRecorded_send, ih]
        rfl
      rw [runRecorded_send, ih, hExchanges, List.append_assoc, run_send]

/-- There is no exchange in a session that is over. -/
@[simp] theorem exchanges_done (result : α) (state : σ) :
    (done result).exchanges transmit report state = [] := rfl

/-- An event is not an exchange. -/
theorem exchanges_tell (event : DeviceEvent) (next : Session α) (state : σ) :
    (tell event next).exchanges transmit report state =
      next.exchanges transmit report (report event state).2 := rfl

/-- A command and its response are the first exchange, and the others follow. -/
theorem exchanges_send (command : Bytes) (next : Except TransportFault Bytes → Session α)
    (state : σ) :
    (send command next).exchanges transmit report state =
      (command, (transmit command state).1) ::
        (next (transmit command state).1).exchanges transmit report (transmit command state).2 := by
  rw [exchanges, runRecorded_send, runRecorded_eq]
  rfl

/-- One session after another has the exchanges of both. -/
theorem exchanges_bind {β : Type} (session : Session α) (f : α → Session β) (state : σ) :
    (session.bind f).exchanges transmit report state =
      session.exchanges transmit report state ++
        (f (session.run transmit report state).1).exchanges transmit report
          (session.run transmit report state).2 := by
  induction session generalizing state with
  | done result => rfl
  | tell event next ih => exact ih (report event state).2
  | send command next ih =>
      rw [bind, exchanges_send, exchanges_send, run_send, ih, List.cons_append]

/-- However many events are told, there is no exchange among them. -/
theorem exchanges_tellAll (events : List DeviceEvent) (next : Session α) (state : σ) :
    (tellAll events next).exchanges transmit report state =
      next.exchanges transmit report
        (events.foldl (fun state event => (report event state).2) state) := by
  induction events generalizing state with
  | nil => rfl
  | cons event events ih => exact ih (report event state).2

end Session

end RemoteAttestation
