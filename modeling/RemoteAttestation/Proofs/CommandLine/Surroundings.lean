import RemoteAttestation.CommandLine.Run
import RemoteAttestation.Proofs.Device.Record
import RemoteAttestation.Proofs.Results

/-!
# Commands in Any Surroundings

What a command may do depends on the answers that it gets, and these may be any: the files hold
what they hold, the device answers as it likes, and the random octets are whatever they are.
The `Surroundings` of a command give these answers, from a state that the device and the source
of random octets may change with each use. Only two things are taken for granted: reading a
file changes nothing, and as many octets are drawn as are asked for.

An interaction that is carried out in some surroundings is an `Episode`: its result, what it
did to the device, and the state that it leaves behind. Interactions one after another are
episodes one after another (`Interaction.episode_bind`), and a command whose first part fails
ends there (`Command.episode_bind`). What a command does before it turns to the device leaves
no record, so everything about the record is about the rest.

## Main results

* `Command.episode_bind`, `Command.result_bind_eq_ok_iff`: one command after another.
* `Command.Consults.bind`: commands that only read files.
* `Interaction.episode_ofSession`: a session is recorded with its exchanges.
* `episode_run`: the episode of the program is that of the command its arguments ask for.
-/

namespace RemoteAttestation

/-! ### Sequences of interactions -/

namespace Interaction

variable {α β γ : Type}

/-- Of three interactions in sequence, it does not matter which two are taken together. -/
theorem bind_assoc (i : Interaction α) (f : α → Interaction β) (g : β → Interaction γ) :
    (i.bind f).bind g = i.bind fun a => (f a).bind g := by
  induction i with
  | done result => rfl
  | tell notice next ih => exact congrArg (tell notice) ih
  | fetch path next ih => exact congrArg (fetch path) (funext ih)
  | openDevice path next ih => exact congrArg (openDevice path) (funext ih)
  | send command next ih => exact congrArg (send command) (funext ih)
  | draw count next ih => exact congrArg (draw count) (funext ih)

/-- Nothing follows an interaction that is followed by its own result. -/
theorem bind_done (i : Interaction α) : i.bind done = i := by
  induction i with
  | done result => rfl
  | tell notice next ih => exact congrArg (tell notice) ih
  | fetch path next ih => exact congrArg (fetch path) (funext ih)
  | openDevice path next ih => exact congrArg (openDevice path) (funext ih)
  | send command next ih => exact congrArg (send command) (funext ih)
  | draw count next ih => exact congrArg (draw count) (funext ih)

instance : LawfulMonad Interaction :=
  LawfulMonad.mk' Interaction bind_done (fun _ _ => rfl) bind_assoc

end Interaction

/-! ### Surroundings -/

/-- The **surroundings** of a command, with a state of their own. -/
structure Surroundings (σ : Type) where
  /-- What a file holds. -/
  fetch : σ → String → Except FileFault Bytes
  /-- Opens a device. -/
  openDevice : String → StateM σ (Except FileFault Unit)
  /-- Sends a command to the device. -/
  send : Bytes → StateM σ (Except TransportFault Bytes)
  /-- Draws random octets. -/
  draw : Nat → StateM σ Bytes
  /-- As many octets are drawn as are asked for. -/
  length_draw : ∀ count state, (draw count state).1.length = count

/-- The **text** that a file holds. -/
def HasText (fetch : String → Except FileFault Bytes) (path text : String) : Prop :=
  ∃ b, fetch path = .ok b ∧ b.toText? = some text

/-- A file holds one text. -/
theorem HasText.unique {fetch : String → Except FileFault Bytes} {path text text' : String}
    (h : HasText fetch path text) (h' : HasText fetch path text') : text = text' := by
  obtain ⟨b, hFetch, hText⟩ := h
  obtain ⟨b', hFetch', hText'⟩ := h'
  obtain rfl := Except.ok.inj (hFetch.symm.trans hFetch')
  exact Option.some.inj (hText.symm.trans hText')

/-- What is done **to the device**, with the answer. -/
inductive DeviceAction where
  /-- It is opened. -/
  | opened (path : String) (answer : Except FileFault Unit)
  /-- A command is sent to it. -/
  | sent (command : Bytes) (answer : Except TransportFault Bytes)

/-- An interaction that was carried out. -/
structure Episode (σ α : Type) where
  /-- Its result. -/
  result : α
  /-- What was done to the device, in order. -/
  record : List DeviceAction
  /-- The state that is left behind. -/
  state : σ

variable {σ α β : Type} {E : Surroundings σ} {state : σ}

/-- What was done earlier, and then an episode. -/
def Episode.after (earlier : List DeviceAction) (e : Episode σ α) : Episode σ α :=
  { e with record := earlier ++ e.record }

/-- Nothing earlier adds nothing. -/
@[simp] theorem Episode.after_nil (e : Episode σ α) : e.after [] = e := rfl

namespace Interaction

/-- Carries out an interaction in some surroundings. -/
def episode (E : Surroundings σ) : Interaction α → σ → Episode σ α
  | done result, state => ⟨result, [], state⟩
  | tell _ next, state => next.episode E state
  | fetch path next, state => (next (E.fetch state path)).episode E state
  | openDevice path next, state =>
    ((next (E.openDevice path state).1).episode E (E.openDevice path state).2).after
      [.opened path (E.openDevice path state).1]
  | send command next, state =>
    ((next (E.send command state).1).episode E (E.send command state).2).after
      [.sent command (E.send command state).1]
  | draw count next, state =>
    (next (E.draw count state).1).episode E (E.draw count state).2

@[simp] theorem episode_done (result : α) (state : σ) :
    (done result).episode E state = ⟨result, [], state⟩ := rfl

/-- **One interaction after another** is one episode after another. -/
theorem episode_bind (i : Interaction α) (f : α → Interaction β) (state : σ) :
    (i >>= f).episode E state =
      ((f (i.episode E state).result).episode E (i.episode E state).state).after
        (i.episode E state).record := by
  change (i.bind f).episode E state = _
  induction i generalizing state with
  | done result => rfl
  | tell notice next ih => exact ih state
  | fetch path next ih => exact ih _ state
  | openDevice path next ih => rw [bind, episode, ih, episode]; rfl
  | send command next ih => rw [bind, episode, ih, episode]; rfl
  | draw count next ih => exact ih _ _

/-- What the operator is told changes nothing. -/
theorem episode_tellAll (notices : List Notice) (state : σ) :
    (tellAll notices).episode E state = ⟨(), [], state⟩ := by
  induction notices with
  | nil => rfl
  | cons notice rest ih => exact ih

/-- The **exchanges** of a session as they are recorded. -/
def recordOf (exchanges : List Exchange) : List DeviceAction :=
  exchanges.map fun exchange => .sent exchange.1 exchange.2

/-- **A session** is recorded with its exchanges. -/
theorem episode_ofSession (session : Session α) (state : σ) :
    (ofSession session).episode E state =
      ⟨(session.run E.send (fun _ => pure ()) state).1,
        recordOf (session.exchanges E.send (fun _ => pure ()) state),
        (session.run E.send (fun _ => pure ()) state).2⟩ := by
  induction session generalizing state with
  | done result => rfl
  | tell event next ih => exact ih state
  | send command next ih =>
      rw [ofSession, episode, ih, Session.exchanges_send]
      rfl

end Interaction

/-! ### Commands -/

namespace Command

/-- Carries out a command in some surroundings. -/
def episode (E : Surroundings σ) (c : Command α) (state : σ) :
    Episode σ (Except CommandFault α) :=
  c.run.episode E state

/-- A command with a result leaves all as it is. -/
@[simp] theorem episode_pure (a : α) (state : σ) :
    (pure a : Command α).episode E state = ⟨.ok a, [], state⟩ := rfl

/-- **One command after another**: the second is carried out if the first succeeds. -/
theorem episode_bind (c : Command α) (f : α → Command β) (state : σ) :
    (c >>= f).episode E state =
      match (c.episode E state).result with
      | .ok a => ((f a).episode E (c.episode E state).state).after (c.episode E state).record
      | .error fault => ⟨.error fault, (c.episode E state).record, (c.episode E state).state⟩ := by
  rw [episode, show (c >>= f).run = c.run >>= ExceptT.bindCont f from rfl,
    Interaction.episode_bind]
  simp only [episode]
  cases (c.run.episode E state).result with
  | ok a => rfl
  | error fault =>
      change Episode.mk _ (_ ++ []) _ = _
      rw [List.append_nil]
      rfl

/-- Two commands **succeed** one after the other when the first does, and the second behind
it. -/
theorem result_bind_eq_ok_iff {c : Command α} {f : α → Command β} {b : β} :
    ((c >>= f).episode E state).result = .ok b ↔
      ∃ a, (c.episode E state).result = .ok a ∧
        ((f a).episode E (c.episode E state).state).result = .ok b := by
  rw [episode_bind]
  cases (c.episode E state).result with
  | ok a => simp [Episode.after]
  | error fault => simp

/-- Two commands **fail** one after the other when the first does, or the second behind it. -/
theorem result_bind_eq_error_iff {c : Command α} {f : α → Command β} {fault : CommandFault} :
    ((c >>= f).episode E state).result = .error fault ↔
      (c.episode E state).result = .error fault ∨
        ∃ a, (c.episode E state).result = .ok a ∧
          ((f a).episode E (c.episode E state).state).result = .error fault := by
  rw [episode_bind]
  cases (c.episode E state).result with
  | ok a => simp [Episode.after]
  | error fault => simp

/-- An interaction that cannot fail, as a command. -/
theorem episode_lift (i : Interaction α) (state : σ) :
    episode E (ExceptT.lift i : Command α) state =
      ⟨.ok (i.episode E state).result, (i.episode E state).record, (i.episode E state).state⟩ := by
  have hRun : (ExceptT.lift i : Command α).run = i >>= fun a => Interaction.done (.ok a) := rfl
  rw [episode, hRun, Interaction.episode_bind]
  simp only [Interaction.episode_done, Episode.after, List.append_nil]

/-- A result or a fault that is known leaves all as it is. -/
@[simp] theorem episode_ofExcept {ε : Type} (fault : ε → CommandFault) (result : Except ε α)
    (state : σ) : (ofExcept fault result).episode E state = ⟨result.mapError fault, [], state⟩ := by
  cases result with
  | ok a => rfl
  | error e => rfl

/-- To tell the operator something cannot fail, and changes nothing. -/
@[simp] theorem episode_tell (notices : List Notice) (state : σ) :
    (tell notices).episode E state = ⟨.ok (), [], state⟩ := by
  rw [tell, episode_lift, Interaction.episode_tellAll]

/-- A file is read from the surroundings, or the reason is told why not. -/
@[simp] theorem episode_readBytes (role : FileRole) (path : String) (state : σ) :
    (readBytes role path).episode E state =
      ⟨(E.fetch state path).mapError fun fault => .unreadable role path (.file fault), [],
        state⟩ :=
  episode_ofExcept _ _ _

/-- A device that is opened is recorded with the answer, be it a fault. -/
@[simp] theorem episode_openDevice (path : String) (state : σ) :
    (openDevice path).episode E state =
      ⟨(E.openDevice path state).1.mapError fun fault => .device ⟨path, fault⟩,
        [.opened path (E.openDevice path state).1], (E.openDevice path state).2⟩ := by
  rw [openDevice, episode_bind, episode_lift]
  simp only [episode_ofExcept]
  rfl

/-- **A session** in a command is recorded with its exchanges. -/
@[simp] theorem episode_session (s : Session α) (state : σ) :
    (session s).episode E state =
      ⟨.ok (s.run E.send (fun _ => pure ()) state).1,
        Interaction.recordOf (s.exchanges E.send (fun _ => pure ()) state),
        (s.run E.send (fun _ => pure ()) state).2⟩ := by
  rw [session, episode_lift, Interaction.episode_ofSession]

/-! ### Commands that only read files -/

/-- A command that **consults** files and nothing else: it leaves no record and no other
state. -/
def Consults (E : Surroundings σ) (c : Command α) : Prop :=
  ∀ state, (c.episode E state).record = [] ∧ (c.episode E state).state = state

/-- Two commands that only read files, one after the other, only read files. -/
theorem Consults.bind {c : Command α} {f : α → Command β} (h : c.Consults E)
    (hNext : ∀ a, (f a).Consults E) : (c >>= f).Consults E := by
  intro state
  rw [episode_bind, (h state).1, (h state).2]
  cases (c.episode E state).result with
  | ok a => exact hNext a state
  | error fault => exact ⟨rfl, rfl⟩

/-- A command that **leaves no record** does nothing to the device. -/
def Silent (E : Surroundings σ) (c : Command α) : Prop :=
  ∀ state, (c.episode E state).record = []

/-- A command that only reads files does nothing to the device. -/
theorem Consults.silent {c : Command α} (h : c.Consults E) : c.Silent E := fun state => (h state).1

/-- Two commands that leave no record, one after the other, leave none. -/
theorem Silent.bind {c : Command α} {f : α → Command β} (h : c.Silent E)
    (hNext : ∀ a, (f a).Silent E) : (c >>= f).Silent E := by
  intro state
  rw [episode_bind, h state]
  cases (c.episode E state).result with
  | ok a => exact hNext a _
  | error fault => rfl

/-- Behind a command that leaves no record, the record is that of the next one, if the command
succeeds, and none if it fails. -/
theorem Silent.episode_bind {c : Command α} (h : c.Silent E) (f : α → Command β) (state : σ) :
    (c >>= f).episode E state =
      match (c.episode E state).result with
      | .ok a => (f a).episode E (c.episode E state).state
      | .error fault => ⟨.error fault, [], (c.episode E state).state⟩ := by
  rw [Command.episode_bind, h state]
  rfl

/-- What follows a command leaves no record, so the record is that of the command. -/
theorem record_bind_of_silent {f : α → Command β} (h : ∀ a, (f a).Silent E) (c : Command α)
    (state : σ) : ((c >>= f).episode E state).record = (c.episode E state).record := by
  rw [Command.episode_bind]
  cases (c.episode E state).result with
  | ok a =>
      change _ ++ ((f a).episode E _).record = _
      rw [h a, List.append_nil]
  | error fault => rfl

/-- **What a device sees**: it is opened, and it gets what is behind that if it could be
opened. -/
theorem record_openDevice_bind (path : String) (f : Unit → Command α) (state : σ) :
    ((openDevice path >>= f).episode E state).record =
      .opened path (E.openDevice path state).1 ::
        match (E.openDevice path state).1 with
        | .ok () => ((f ()).episode E (E.openDevice path state).2).record
        | .error _ => [] := by
  rw [Command.episode_bind, episode_openDevice]
  cases (E.openDevice path state).1 with
  | ok u => rfl
  | error fault => rfl

/-- A result asks for nothing. -/
theorem consults_pure (a : α) : (pure a : Command α).Consults E := fun _ => ⟨rfl, rfl⟩

theorem consults_ofExcept {ε : Type} (fault : ε → CommandFault) (result : Except ε α) :
    (ofExcept fault result).Consults E := fun state => by
  rw [episode_ofExcept]
  exact ⟨rfl, rfl⟩

theorem consults_tell (notices : List Notice) : (tell notices).Consults E := fun state => by
  rw [episode_tell]
  exact ⟨rfl, rfl⟩

/-- To read a file is to consult it. -/
theorem consults_readBytes (role : FileRole) (path : String) :
    (readBytes role path).Consults E := fun state => by
  rw [episode_readBytes]
  exact ⟨rfl, rfl⟩

/-- To read a text is to consult its file, whatever is in there. -/
theorem consults_readText (role : FileRole) (path : String) :
    (readText role path).Consults E := by
  refine (consults_readBytes role path).bind fun b => ?_
  cases b.toText? with
  | none => exact fun _ => ⟨rfl, rfl⟩
  | some text => exact consults_pure text

/-- A command that consults files **succeeds** before another one just when it succeeds by
itself, and all is as it was for the other one. -/
theorem Consults.result_bind_eq_ok_iff {c : Command α} (h : c.Consults E) {f : α → Command β}
    {b : β} :
    ((c >>= f).episode E state).result = .ok b ↔
      ∃ a, (c.episode E state).result = .ok a ∧ ((f a).episode E state).result = .ok b := by
  rw [Command.result_bind_eq_ok_iff, (h state).2]

/-- A command that consults files **fails** before another one when it fails by itself, or else
the other one does where all is as it was. -/
theorem Consults.result_bind_eq_error_iff {c : Command α} (h : c.Consults E) {f : α → Command β}
    {fault : CommandFault} :
    ((c >>= f).episode E state).result = .error fault ↔
      (c.episode E state).result = .error fault ∨
        ∃ a, (c.episode E state).result = .ok a ∧
          ((f a).episode E state).result = .error fault := by
  rw [Command.result_bind_eq_error_iff, (h state).2]

/-- What comes of a file that is read as **text**. -/
theorem result_readText (role : FileRole) (path : String) :
    ((readText role path).episode E state).result =
      match E.fetch state path with
      | .error fault => .error (.unreadable role path (.file fault))
      | .ok b =>
        match b.toText? with
        | some text => .ok text
        | none => .error (.unreadable role path .notText) := by
  rw [readText, episode_bind, episode_readBytes]
  cases E.fetch state path with
  | error fault => rfl
  | ok b =>
      simp only [mapError_ok]
      cases b.toText? with
      | none => rfl
      | some text => rfl

/-- The text of a file that can be read. -/
theorem result_readText_eq_ok_iff {role : FileRole} {path text : String} :
    ((readText role path).episode E state).result = .ok text ↔
      HasText (E.fetch state) path text := by
  rw [result_readText, HasText]
  cases E.fetch state path with
  | error fault => simp
  | ok b => cases hText : b.toText? <;> simp [hText]

/-- A text that cannot be had is **unreadable**. -/
theorem exists_of_result_readText_eq_error {role : FileRole} {path : String} {fault : CommandFault}
    (h : ((readText role path).episode E state).result = .error fault) :
    ∃ cause, fault = .unreadable role path cause := by
  rw [result_readText] at h
  split at h
  · exact ⟨_, (Except.error.inj h).symm⟩
  · split at h
    · cases h
    · exact ⟨_, (Except.error.inj h).symm⟩

end Command

/-! ### The program -/

/-- What the program leaves behind when its command **ends**: the outcome, or the fault by
itself. -/
def Outcome.ofResult : Except CommandFault Outcome → Outcome
  | .ok outcome => outcome
  | .error fault => ⟨none, some fault⟩

/-- The episode of **the program** is that of the command that its arguments ask for. -/
theorem episode_run (E : Surroundings σ) (arguments : List String) (state : σ) :
    (run arguments).episode E state =
      { (Command.ofArguments arguments).episode E state with
        result := .ofResult ((Command.ofArguments arguments).episode E state).result } := by
  rw [run, Interaction.episode_bind, Command.episode]
  generalize (Command.ofArguments arguments).run.episode E state = e
  obtain ⟨result, record, state⟩ := e
  cases result with
  | ok outcome => exact congrArg (Episode.mk _ · _) (List.append_nil record)
  | error fault => exact congrArg (Episode.mk _ · _) (List.append_nil record)

end RemoteAttestation
