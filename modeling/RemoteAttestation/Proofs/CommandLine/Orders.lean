import RemoteAttestation.Proofs.CommandLine.PcrPrinting
import RemoteAttestation.Proofs.CommandLine.Settings
import RemoteAttestation.Proofs.Device.QuoteExchange
import RemoteAttestation.Proofs.Quote.Command
import RemoteAttestation.Proofs.Quote.Request

/-!
# What an Operator Orders

An operator orders something of a TPM by arguments and files: a quote of some PCRs with a key
(`QuoteOrder`), or the values of some PCRs (`PcrsOrder`). An order is complete before a device
is opened. It has settings that flags and files configure, a selection for each bank that is
asked for, and a quote also has a nonce, which is given or drawn. If one of these cannot be
had, there is no order, and no device hears of it.

Both programs are split at this place: the first part finds out the order and leaves no record,
and the second part carries it out (`Command.quote_eq`, `Command.pcrs_eq`). So whatever is sent
was ordered, however the device answers, and what was ordered can be told from the arguments
and files alone (`Episode.KeepsTo`).

Reading PCRs may take several commands, and each of them asks only for what is still missing of
one bank. A quote takes one command.

## Main results

* `QuoteOrder.wellFormed`: a request that is ordered is one that a TPM is meant to get.
* `Command.result_quoteOrder_eq_ok_iff`, `Command.result_pcrsOrder_eq_ok_iff`: what the orders are.
* `OrdersFirst.refused_or_carried_out`: what a program does that orders first.
* `OrdersFirst.keepsTo`: such a program keeps to its orders.
* `run_keeps_to_orders`: so do `quote` and `pcrs`.
-/

namespace RemoteAttestation

variable {σ α : Type} {E : Surroundings σ} {state : σ} {flags : Flags}

/-- The arguments of a command are **flags** that it knows, each with a value. -/
def Flags.WrittenAs (flags : Flags) (known arguments : List String) : Prop :=
  arguments = written flags.pairs ∧ ∀ p ∈ flags.pairs, p.1 ∈ known

/-- Arguments write one list of flags. -/
theorem Flags.WrittenAs.unique {flags flags' : Flags} {known arguments : List String}
    (h : flags.WrittenAs known arguments) (h' : flags'.WrittenAs known arguments) :
    flags = flags' :=
  Except.ok.inj ((parse_eq_ok_iff.mpr h).symm.trans (parse_eq_ok_iff.mpr h'))

/-- A bank **asks for** a selection: that of its indices, if there are some, none is listed
twice and the bank can have them. -/
structure PcrBank.AsksFor (b : PcrBank) (s : Selection) : Prop where
  /-- The bank is the same. -/
  bank_eq : s.bank = b.bank
  /-- The indices are the same. -/
  mem_iff : ∀ index, index ∈ s.indices ↔ index ∈ b.indices
  /-- The bank is one of a hash and has the indices. -/
  inBank : s.InBank
  /-- There is an index. -/
  ne_nil : b.indices ≠ []
  /-- No index is listed twice. -/
  nodup : b.indices.Nodup

/-- The selection of a bank is the one that the bank asks for. -/
theorem PcrBank.selection_eq_ok_iff {b : PcrBank} {s : Selection} :
    b.selection = .ok s ↔ b.AsksFor s := by
  rw [selection, Selection.make_eq_ok_iff]
  exact ⟨fun ⟨hBank, hMem, hInBank, hNe, hNodup⟩ => ⟨hBank, hMem, hInBank, hNe, hNodup⟩,
    fun ⟨hBank, hMem, hInBank, hNe, hNodup⟩ => ⟨hBank, hMem, hInBank, hNe, hNodup⟩⟩

/-- The selections of settings are what their banks ask for, one by one and in order. -/
theorem Settings.selections_eq_ok_iff {s : Settings} {selections : List Selection} :
    s.selections = .ok selections ↔ List.Forall₂ PcrBank.AsksFor s.pcrs selections := by
  rw [Settings.selections, mapM_eq_ok_iff]
  simp only [PcrBank.selection_eq_ok_iff]

/-- An **order** for PCR values: what arguments and files configure, and the selections that it
asks for. -/
structure PcrsOrder (fetch : String → Except FileFault Bytes) (flags : Flags) (settings : Settings)
    (selections : List Selection) : Prop where
  /-- The settings are those that the flags and files configure. -/
  configured : settings.Configured fetch flags
  /-- Each bank asks for one of the selections. -/
  asked : List.Forall₂ PcrBank.AsksFor settings.pcrs selections

/-- An **order** for a quote: the device, and a request with what arguments and files
configure. The nonce is the one that is given, or a drawn one. -/
structure QuoteOrder (fetch : String → Except FileFault Bytes) (draw : Nat → Bytes) (flags : Flags)
    (settings : Settings) (request : QuoteRequest) : Prop where
  /-- The settings are those that the flags and files configure. -/
  configured : settings.Configured fetch flags
  /-- Each bank asks for one of the selections. -/
  asked : List.Forall₂ PcrBank.AsksFor settings.pcrs request.selections
  /-- The nonce is that of the flag, or drawn with the configured size. -/
  nonce : flags.Overrides "--nonce" (fun text nonce => Hex.decode text = .ok nonce)
    (draw settings.nonceSize) request.nonce
  /-- The key is the configured one. -/
  keyHandle : request.keyHandle = settings.keyHandle
  /-- The scheme is the configured one. -/
  scheme : request.scheme = settings.scheme

/-! ### What is sent -/

/-- A request that a TPM is **meant to get**. -/
structure QuoteRequest.WellFormed (request : QuoteRequest) : Prop where
  /-- The nonce has a size that a TPM takes. -/
  nonce_size : 1 ≤ request.nonce.length ∧ request.nonce.length ≤ 64
  /-- The scheme is the null scheme or has a hash. -/
  scheme : request.scheme = .null ∨
    ∃ hash, request.scheme.hash? = some hash ∧ hash.isHash = true
  /-- There is a bank. -/
  ne_nil : request.selections ≠ []
  /-- No bank is repeated. -/
  banks_nodup : (request.selections.map Selection.bank).Nodup
  /-- Each bank is one of a hash. -/
  isHash : ∀ s ∈ request.selections, s.bank.isHash = true
  /-- Each bank has an index, and no index is too high. -/
  indices : ∀ s ∈ request.selections, s.indices ≠ [] ∧ ∀ index ∈ s.indices, index.toNat < 24

/-- A request that is ordered is **well formed**: the settings give it a scheme with a hash,
and the banks are judged before the request is made. -/
theorem QuoteOrder.wellFormed {fetch : String → Except FileFault Bytes} {draw : Nat → Bytes}
    {settings : Settings} {request : QuoteRequest}
    (h : QuoteOrder fetch draw flags settings request) : request.WellFormed := by
  have hInBank : ∀ s ∈ request.selections, s.InBank := fun s hs => by
    obtain ⟨b, -, hAsks⟩ := exists_of_mem_of_forall₂ h.asked.flip hs
    exact hAsks.inBank
  exact
    { nonce_size := request.nonce_size
      scheme := h.scheme ▸ h.configured.scheme_usable
      ne_nil := request.requestable.ne_nil
      banks_nodup := request.banks_nodup
      isHash := fun s hs => (hInBank s hs).isHash
      indices := fun s hs => ⟨request.requestable.inhabited s hs, fun index hIndex =>
        UInt8.lt_iff_toNat_lt.mp ((hInBank s hs).lt_pcrCount index hIndex)⟩ }

/-! ### Quotes -/

namespace Command

/-- To find a nonce nothing is done to the device. -/
theorem silent_nonce (size : Nat) : (nonce flags size).Silent E := by
  rw [nonce]
  cases flags.get? "--nonce" with
  | some text => exact (consults_ofExcept _ _).silent
  | none =>
      rw [freshNonce]
      cases nonceFault? size with
      | some fault => exact fun _ => rfl
      | none => exact fun _ => rfl

/-- A nonce is the one that is given, or it is drawn with a size that a TPM takes. -/
theorem result_nonce_eq_ok_iff {size : Nat} {b : Bytes}
    (hSize : 1 ≤ b.length ∧ b.length ≤ maxNonce) :
    ((nonce flags size).episode E state).result = .ok b ↔
      flags.Overrides "--nonce" (fun text nonce => Hex.decode text = .ok nonce)
        (E.draw size state).1 b := by
  rw [nonce, Flags.Overrides, ← Flags.get?_eq_none_iff]
  simp only [← Flags.get?_eq_some_iff]
  cases flags.get? "--nonce" with
  | some text => simp [mapError_eq_ok_iff]
  | none =>
      have hDraw : episode E (ExceptT.lift (.draw size .done) : Command Bytes) state =
          ⟨.ok (E.draw size state).1, [], (E.draw size state).2⟩ := rfl
      simp only [reduceCtorEq, false_and, exists_false, true_and, false_or, freshNonce]
      -- A size that no nonce has is a fault, and as many octets as that are not a nonce.
      cases hFault : nonceFault? size with
      | none =>
          simp only [hDraw, Except.ok.injEq]
          exact eq_comm
      | some fault =>
          refine iff_of_false (fun h => ?_) ?_
          · cases h
          rintro rfl
          rw [E.length_draw, ← nonceFault?_eq_none_iff, hFault] at hSize
          cases hSize

/-- A request is made without anything from the surroundings. -/
theorem consults_request (settings : Settings) (nonce : Bytes) :
    (request settings nonce).Consults E :=
  (consults_ofExcept _ _).bind fun _ => consults_ofExcept _ _

/-- The request has the key, the nonce and the scheme that it is made with, and asks for what
the banks of the settings ask for. -/
theorem result_request_eq_ok_iff {settings : Settings} {nonce : Bytes} {r : QuoteRequest} :
    ((request settings nonce).episode E state).result = .ok r ↔
      List.Forall₂ PcrBank.AsksFor settings.pcrs r.selections ∧
        r.keyHandle = settings.keyHandle ∧ r.nonce = nonce ∧ r.scheme = settings.scheme := by
  rw [request, (consults_ofExcept _ _).result_bind_eq_ok_iff]
  simp only [episode_ofExcept, mapError_eq_ok_iff, Settings.selections_eq_ok_iff,
    QuoteRequest.build_eq_ok_iff]
  constructor
  · rintro ⟨selections, hAsked, hKey, hNonce, rfl, hScheme⟩
    exact ⟨hAsked, hKey, hNonce, hScheme⟩
  · rintro ⟨hAsked, hKey, hNonce, hScheme⟩
    exact ⟨r.selections, hAsked, hKey, hNonce, rfl, hScheme⟩

/-- The nonce of a request can be taken from the request. -/
theorem request_bind_congr {settings : Settings} {nonce : Bytes} {f g : QuoteRequest → Command α}
    (h : ∀ r : QuoteRequest, r.nonce = nonce → f r = g r) :
    request settings nonce >>= f = request settings nonce >>= g := by
  rw [request]
  cases settings.selections with
  | error fault => rfl
  | ok selections =>
      change ofExcept _ (QuoteRequest.build ..) >>= f = ofExcept _ (QuoteRequest.build ..) >>= g
      cases hBuild : QuoteRequest.build settings.keyHandle nonce selections settings.scheme with
      | error fault => rfl
      | ok r => exact h r (QuoteRequest.build_eq_ok_iff.mp hBuild).2.1

/-- What is **ordered** of a device: the settings and the request. -/
def quoteOrder (flags : Flags) : Command (Settings × QuoteRequest) := do
  let settings ← settings flags
  let nonce ← nonce flags settings.nonceSize
  let request ← request settings nonce
  return (settings, request)

/-- Nothing is done to the device while a quote is ordered. -/
theorem silent_quoteOrder (flags : Flags) : (quoteOrder flags).Silent E :=
  (consults_settings flags).silent.bind fun settings =>
    (silent_nonce settings.nonceSize).bind fun nonce =>
      (consults_request settings nonce).silent.bind fun _ => (consults_pure _).silent

/-- What is ordered is what flags, files and drawn octets **describe**. -/
theorem result_quoteOrder_eq_ok_iff {order : Settings × QuoteRequest} :
    ((quoteOrder flags).episode E state).result = .ok order ↔
      QuoteOrder (E.fetch state) (fun size => (E.draw size state).1) flags order.1 order.2 := by
  rw [quoteOrder, (consults_settings flags).result_bind_eq_ok_iff]
  simp only [result_settings_eq_ok_iff, result_bind_eq_ok_iff, result_request_eq_ok_iff,
    episode_pure, Except.ok.injEq]
  constructor
  · rintro ⟨_, hConfigured, _, hNonce, r, ⟨hAsked, hKey, rfl, hScheme⟩, rfl⟩
    exact ⟨hConfigured, hAsked, (result_nonce_eq_ok_iff r.nonce_size).mp hNonce, hKey, hScheme⟩
  · rintro ⟨hConfigured, hAsked, hNonce, hKey, hScheme⟩
    exact ⟨order.1, hConfigured, order.2.nonce,
      (result_nonce_eq_ok_iff order.2.nonce_size).mpr hNonce, order.2,
      ⟨hAsked, hKey, rfl, hScheme⟩, rfl⟩

/-- What becomes of a session for a quote: what is printed, or a fault. -/
def printQuote (nonce : Bytes) (result : Except QuoteFailure Quote) : Command Outcome := do
  let quote ← ofExcept .quote result
  tell [quoteNotice quote]
  let attestation ← ofExcept .undecodable (Attestation.decode quote.attestation)
  tell [attestation.notice]
  return ⟨some ((QuoteFile.ofQuote nonce quote).json attestation).pretty, none⟩

/-- What becomes of a session for a quote is printed without a look at the device. -/
theorem consults_printQuote (nonce : Bytes) (result : Except QuoteFailure Quote) :
    (printQuote nonce result).Consults E :=
  (consults_ofExcept _ _).bind fun _ => (consults_tell _).bind fun _ =>
    (consults_ofExcept _ _).bind fun _ => (consults_tell _).bind fun _ => consults_pure _

/-- An order for a quote, **carried out**. -/
def carryOut (settings : Settings) (r : QuoteRequest) : Command Outcome := do
  openDevice settings.device
  printQuote r.nonce (← session r.session)

/-- A quote is **ordered first**, and then the order is carried out. -/
theorem quote_eq (flags : Flags) :
    quote flags = quoteOrder flags >>= fun order => carryOut order.1 order.2 := by
  simp only [quote, quoteOrder, carryOut, printQuote, bind_assoc, pure_bind]
  refine congrArg (_ >>= ·) (funext fun settings => congrArg (_ >>= ·) (funext fun nonce => ?_))
  refine request_bind_congr fun r hNonce => ?_
  rw [hNonce]

/-- **What a device sees** of an order: it is opened, and if this succeeds it gets the
command. -/
theorem record_carryOut_eq (settings : Settings) (r : QuoteRequest) (state : σ) :
    ((carryOut settings r).episode E state).record =
      .opened settings.device (E.openDevice settings.device state).1 ::
        match (E.openDevice settings.device state).1 with
        | .ok () => [.sent r.command
            (r.answer E.send (fun _ => pure ()) (E.openDevice settings.device state).2)]
        | .error _ => [] := by
  rw [carryOut, record_openDevice_bind]
  cases (E.openDevice settings.device state).1 with
  | error fault => rfl
  | ok u =>
      dsimp only
      rw [record_bind_of_silent fun result => (consults_printQuote r.nonce result).silent,
        episode_session, QuoteRequest.exchanges_session]
      rfl

/-- An order that is carried out opens the device of the settings first, and then sends the
command of the request or nothing. -/
theorem record_carryOut (settings : Settings) (r : QuoteRequest) (state : σ) :
    ∃ answer rest, ((carryOut settings r).episode E state).record =
        .opened settings.device answer :: rest ∧
      ∀ command response, .sent command response ∈ rest → command = r.command := by
  refine ⟨_, _, record_carryOut_eq settings r state, fun command response hSent => ?_⟩
  cases hOpen : (E.openDevice settings.device state).1 with
  | error fault =>
      rw [hOpen] at hSent
      cases hSent
  | ok u =>
      rw [hOpen] at hSent
      obtain ⟨rfl, -⟩ := DeviceAction.sent.inj (List.mem_singleton.mp hSent)
      rfl

/-! ### PCR values -/

/-- What is ordered of a device: the settings and the selections. -/
def pcrsOrder (flags : Flags) : Command (Settings × List Selection) := do
  let settings ← settings flags
  let selections ← ofExcept (fun fault => .request (.selection fault)) settings.selections
  return (settings, selections)

theorem consults_pcrsOrder (flags : Flags) : (pcrsOrder flags).Consults E :=
  (consults_settings flags).bind fun _ => (consults_ofExcept _ _).bind fun _ => consults_pure _

/-- What is ordered is what flags and files **describe**. -/
theorem result_pcrsOrder_eq_ok_iff {order : Settings × List Selection} :
    ((pcrsOrder flags).episode E state).result = .ok order ↔
      PcrsOrder (E.fetch state) flags order.1 order.2 := by
  rw [pcrsOrder, (consults_settings flags).result_bind_eq_ok_iff]
  simp only [result_settings_eq_ok_iff, result_bind_eq_ok_iff, episode_ofExcept, mapError_eq_ok_iff,
    Settings.selections_eq_ok_iff, episode_pure, Except.ok.injEq]
  constructor
  · rintro ⟨_, hConfigured, _, hAsked, rfl⟩
    exact ⟨hConfigured, hAsked⟩
  · rintro ⟨hConfigured, hAsked⟩
    exact ⟨order.1, hConfigured, order.2, hAsked, rfl⟩

/-- An order for PCR values, carried out. -/
def readOut (settings : Settings) (selections : List Selection) : Command Outcome := do
  openDevice settings.device
  let values ← readSelections .empty selections
  return ⟨some values.file, none⟩

/-- PCR values are **ordered first**, and then the order is carried out. -/
theorem pcrs_eq (flags : Flags) :
    pcrs flags = pcrsOrder flags >>= fun order => readOut order.1 order.2 := by
  simp only [pcrs, pcrsOrder, readOut, bind_assoc, pure_bind]

/-- The selections are read one after the other, so the record is that of the session that
reads them all. -/
theorem record_readSelections (values : PcrValues) (selections : List Selection) (state : σ) :
    ((readSelections values selections).episode E state).record =
      Interaction.recordOf
        ((Selection.readAll values selections).exchanges E.send (fun _ => pure ()) state) := by
  rw [episode, run_readSelections, Interaction.episode_ofSession]

/-- An order that is carried out opens the device of the settings first, and then sends
commands that ask for something of one of the selections. -/
theorem record_readOut (settings : Settings) (selections : List Selection) (state : σ) :
    ∃ answer rest, ((readOut settings selections).episode E state).record =
        .opened settings.device answer :: rest ∧
      ∀ command response, .sent command response ∈ rest →
        ∃ s ∈ selections, ∃ requested : Selection, requested.AskedBy command ∧
          requested.bank = s.bank ∧ requested.indices ≠ [] ∧
            ∀ index ∈ requested.indices, index ∈ s.indices := by
  refine ⟨_, _, record_openDevice_bind _ _ _, fun command response hSent => ?_⟩
  cases hOpen : (E.openDevice settings.device state).1 with
  | error fault =>
      rw [hOpen] at hSent
      cases hSent
  | ok u =>
      rw [hOpen] at hSent
      dsimp only at hSent
      rw [record_bind_of_silent fun values => (consults_pure _).silent,
        record_readSelections] at hSent
      obtain ⟨exchange, hExchange, hEq⟩ := List.mem_map.mp hSent
      obtain ⟨rfl, rfl⟩ := DeviceAction.sent.inj hEq
      exact Selection.exists_request_of_readAll hExchange

end Command

/-! ### Orders first -/

/-- A program that **orders first**: it finds out an order from its flags, and then carries it
out. -/
structure OrdersFirst (E : Surroundings σ) (name : String) (known : List String)
    (order : Flags → Command α) (act : α → Command Outcome) : Prop where
  /-- The program has the flags that it knows, and these two parts. -/
  program : ∀ arguments, Command.ofArguments (name :: arguments) =
    Command.withFlags known arguments fun flags => order flags >>= act
  /-- The device does not hear of an order that is not complete. -/
  silent : ∀ flags, (order flags).Silent E

/-- The program that is run as `quote` gives its order before it turns to the device. -/
theorem ordersFirst_quote (E : Surroundings σ) :
    OrdersFirst E "quote" Command.settingsFlags Command.quoteOrder
      fun order => Command.carryOut order.1 order.2 where
  program arguments :=
    congrArg (Command.withFlags Command.settingsFlags arguments) (funext Command.quote_eq)
  silent := Command.silent_quoteOrder

theorem ordersFirst_pcrs (E : Surroundings σ) :
    OrdersFirst E "pcrs" Command.pcrsFlags Command.pcrsOrder
      fun order => Command.readOut order.1 order.2 where
  program arguments :=
    congrArg (Command.withFlags Command.pcrsFlags arguments) (funext Command.pcrs_eq)
  silent flags := (Command.consults_pcrsOrder flags).silent

namespace OrdersFirst

variable {name : String} {known : List String} {order : Flags → Command α}
  {act : α → Command Outcome}

/-- A program that orders first **is refused** before it turns to the device, or it has an
order and carries it out. -/
theorem refused_or_carried_out (h : OrdersFirst E name known order act) (arguments : List String)
    (state : σ) :
    (((run (name :: arguments)).episode E state).record = [] ∧
      (∃ fault, ((run (name :: arguments)).episode E state).result = ⟨none, some fault⟩) ∧
      ∀ flags, Flags.WrittenAs flags known arguments →
        ∀ a, ((order flags).episode E state).result ≠ .ok a) ∨
    ∃ (flags : Flags) (a : α) (later : σ), flags.WrittenAs known arguments ∧
      ((order flags).episode E state).result = .ok a ∧
      ((run (name :: arguments)).episode E state).record = ((act a).episode E later).record ∧
      ((run (name :: arguments)).episode E state).result =
        .ofResult ((act a).episode E later).result := by
  rw [episode_run, h.program, Command.withFlags, Command.episode_bind, Command.episode_ofExcept]
  cases hFlags : Flags.parse known arguments with
  | error fault =>
      refine .inl ⟨rfl, ⟨_, rfl⟩, fun flags hWritten => ?_⟩
      rw [Flags.parse_eq_ok_iff.mpr hWritten] at hFlags
      cases hFlags
  | ok flags =>
      have hWritten : flags.WrittenAs known arguments := Flags.parse_eq_ok_iff.mp hFlags
      simp only [mapError_ok, Episode.after_nil, (h.silent flags).episode_bind]
      cases hResult : ((order flags).episode E state).result with
      | error fault =>
          refine .inl ⟨rfl, ⟨_, rfl⟩, fun flags' hWritten' a hOk => ?_⟩
          rw [← hWritten.unique hWritten', hResult] at hOk
          cases hOk
      | ok a => exact .inr ⟨flags, a, _, hWritten, hResult, rfl, rfl⟩

end OrdersFirst

/-- A command **keeps to its orders**. What it sends belongs to an order; without an order it
fails and does nothing to the device; and with one it opens the device of the order first. -/
structure Episode.KeepsTo (e : Episode σ Outcome) (Ordered : α → Prop) (device : α → String)
    (Sends : α → Bytes → Prop) : Prop where
  /-- What is sent belongs to an order. -/
  sent : ∀ command answer, .sent command answer ∈ e.record →
    ∃ order, Ordered order ∧ Sends order command
  /-- Without an order, there is a fault, and nothing is done to the device. -/
  refused : (¬ ∃ order, Ordered order) → e.record = [] ∧ e.result.status ≠ 0
  /-- With an order, its device is opened before anything else is done. -/
  opened : ∀ order, Ordered order → ∃ answer rest, e.record = .opened (device order) answer :: rest

/-- A program that orders first **keeps to its orders**, if each of them begins with its device
and sends what belongs to it. -/
theorem OrdersFirst.keepsTo {name : String} {known : List String} {order : Flags → Command α}
    {act : α → Command Outcome} (h : OrdersFirst E name known order act)
    {Ordered : Flags → α → Prop} {device : α → String} {Sends : α → Bytes → Prop}
    (hOrder : ∀ flags a, ((order flags).episode E state).result = .ok a ↔ Ordered flags a)
    (hAct : ∀ flags a, Ordered flags a → ∀ later, ∃ answer rest,
      ((act a).episode E later).record = .opened (device a) answer :: rest ∧
        ∀ command response, .sent command response ∈ rest → Sends a command)
    (arguments : List String) :
    ((run (name :: arguments)).episode E state).KeepsTo
      (fun a => ∃ flags : Flags, flags.WrittenAs known arguments ∧ Ordered flags a) device
      Sends := by
  rcases h.refused_or_carried_out arguments state with
    ⟨hRecord, ⟨fault, hResult⟩, hNone⟩ | ⟨flags, a, later, hWritten, hOk, hRecord, -⟩
  · have hNoOrder : ¬ ∃ a flags, Flags.WrittenAs flags known arguments ∧ Ordered flags a := by
      rintro ⟨a, flags, hWritten, hOrdered⟩
      exact hNone flags hWritten a ((hOrder flags a).mpr hOrdered)
    refine ⟨fun command answer hSent => ?_, fun _ => ⟨hRecord, ?_⟩, fun a ha => ?_⟩
    · rw [hRecord] at hSent
      cases hSent
    · rw [hResult]
      exact Nat.one_ne_zero
    · exact absurd ⟨a, ha⟩ hNoOrder
  · have hOrdered := (hOrder flags a).mp hOk
    obtain ⟨answer, rest, hAction, hSends⟩ := hAct flags a hOrdered later
    rw [hAction] at hRecord
    refine ⟨fun command response hSent => ?_, fun hNone => ?_, ?_⟩
    · rw [hRecord] at hSent
      rcases List.mem_cons.mp hSent with hOpened | hSent
      · cases hOpened
      · exact ⟨a, ⟨flags, hWritten, hOrdered⟩, hSends command response hSent⟩
    · exact absurd ⟨a, flags, hWritten, hOrdered⟩ hNone
    · -- The flags are the only ones that the arguments write, so the order is the only one.
      rintro other ⟨flags', hWritten', hOther⟩
      rw [← hWritten.unique hWritten', ← hOrder, hOk] at hOther
      obtain rfl := Except.ok.inj hOther
      exact ⟨answer, rest, hRecord⟩

/-- **What is sent was ordered, and it was ordered first.** The program that is run as `quote`
sends the command of a request with what its flags and files configure, in the layout of such
commands, and the request is one that a TPM is meant to get. Run as `pcrs` it sends commands
that each ask for something of one bank, and for nothing that is not configured. Flags,
settings, nonces or selections that are no order are a fault before the device is opened. -/
theorem run_keeps_to_orders (E : Surroundings σ) (state : σ) (arguments : List String) :
    ((run ("quote" :: arguments)).episode E state).KeepsTo
      (fun order : Settings × QuoteRequest => ∃ flags : Flags,
        flags.WrittenAs ["--config", "--device", "--handle", "--pcrs", "--scheme", "--nonce"]
          arguments ∧
        QuoteOrder (E.fetch state) (fun size => (E.draw size state).1) flags order.1 order.2)
      (fun order => order.1.device)
      (fun order command => order.2.WellFormed ∧ command = order.2.command ∧
        QuoteRequest.Layout order.2.keyHandle order.2.nonce order.2.selections order.2.scheme
          command) ∧
    ((run ("pcrs" :: arguments)).episode E state).KeepsTo
      (fun order : Settings × List Selection => ∃ flags : Flags,
        flags.WrittenAs ["--config", "--device", "--pcrs"] arguments ∧
        PcrsOrder (E.fetch state) flags order.1 order.2)
      (fun order => order.1.device)
      (fun order command => ∃ b ∈ order.1.pcrs, ∃ requested : Selection,
        requested.AskedBy command ∧ requested.bank = b.bank ∧ requested.indices ≠ [] ∧
          ∀ index ∈ requested.indices, index ∈ b.indices) := by
  constructor
  · refine (ordersFirst_quote E).keepsTo (fun _ _ => Command.result_quoteOrder_eq_ok_iff)
      (fun flags order hOrder later => ?_) arguments
    obtain ⟨answer, rest, hRecord, hSent⟩ := Command.record_carryOut order.1 order.2 later
    refine ⟨answer, rest, hRecord, fun command response h => ?_⟩
    obtain rfl := hSent command response h
    exact ⟨hOrder.wellFormed, rfl, order.2.layout_command⟩
  · refine (ordersFirst_pcrs E).keepsTo (fun _ _ => Command.result_pcrsOrder_eq_ok_iff)
      (fun flags order hOrder later => ?_) arguments
    obtain ⟨answer, rest, hRecord, hSent⟩ := Command.record_readOut order.1 order.2 later
    refine ⟨answer, rest, hRecord, fun command response h => ?_⟩
    obtain ⟨s, hs, requested, hAsked, hBank, hSome, hSubset⟩ := hSent command response h
    obtain ⟨b, hb, hAsks⟩ := exists_of_mem_of_forall₂ hOrder.asked.flip hs
    exact ⟨b, hb, requested, hAsked, hBank.trans hAsks.bank_eq, hSome, fun index hIndex =>
      (hAsks.mem_iff index).mp (hSubset index hIndex)⟩

end RemoteAttestation
