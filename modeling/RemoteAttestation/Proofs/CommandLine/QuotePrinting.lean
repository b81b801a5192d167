import RemoteAttestation.Proofs.CommandLine.Orders
import RemoteAttestation.Proofs.CommandLine.QuoteFile
import RemoteAttestation.Proofs.CommandLine.Verification
import RemoteAttestation.Proofs.HonestRun
import RemoteAttestation.Proofs.Quote.Command

/-!
# Printed Quotes

A signature is over the octets of an attestation, not over what they mean, and an attestation
has more than one spelling. So a quote must come to the verifier octet for octet as the TPM
returned it. On the way it is taken from a response, decoded for the operator, printed in
hexadecimal beside what was decoded, and read back from the file. A text that `quote` prints
**hands on** the quote (`HandsOn`): `verify` finds the octets of the quote in it, and its
outcome is that of an appraisal of these octets, whatever the other files and the nonce are.

An attestation that cannot be decoded is not printed. So what is printed can always be
appraised, and a verifier never has to refuse it as malformed.

## Main results

* `handsOn_pretty`: what is printed of a quote hands it on.
* `Command.result_carryOut_eq_ok_iff`: what it takes to print a quote, and what is printed.
* `quoteEpisode_hands_on`: a run that succeeds hands on the quote that the TPM returned.
-/

namespace RemoteAttestation

/-! ### Verifying what is printed -/

/-- A text **hands on** a quote that was requested with a nonce: whoever verifies it appraises
that quote. -/
structure HandsOn (text : String) (nonce : Bytes) (q : Quote) : Prop where
  /-- The text is a quote file, and stands for the nonce and the two parts of the quote. -/
  texts : ∃ file, QuoteFile.ofText? text = some file ∧ Hex.decode file.nonce = .ok nonce ∧
    Hex.decode file.attest = .ok q.attestation ∧ Hex.decode file.signature = .ok q.signature
  /-- A verification of the text has the outcome that the quote has with the key, the values
  and the nonce that are expected, whatever the surroundings are. -/
  outcome : ∀ {τ : Type} (E : Surroundings τ) (state : τ) (arguments : List String)
    (o : VerifyOperands) (key : AttestationKey) (expected : PcrValues) (expectedNonce : Bytes),
    o.NamedBy arguments → HasText (E.fetch state) o.quotePath text →
    (∃ b, E.fetch state o.keyPath = .ok b ∧ AttestationKey.load b = .ok key) →
    (∃ pcrText, HasText (E.fetch state) o.pcrPath pcrText ∧
      PcrValues.ofText pcrText = .ok expected) →
    Hex.decode o.nonceText = .ok expectedNonce →
    verifyOutcome E state arguments =
      match (verify q.attestation q.signature expectedNonce expected key).result with
      | .ok verdict => verdict.outcome
      | .error fault => ⟨none, some (.verify fault)⟩
  /-- No verification of the text finds that the attestation is malformed, whatever the other
  files hold. -/
  wellFormed : ∀ {τ : Type} (E : Surroundings τ) (state : τ) (arguments : List String)
    (o : VerifyOperands), o.NamedBy arguments → HasText (E.fetch state) o.quotePath text →
    ∀ cause, (verifyOutcome E state arguments).fault ≠
      some (.verify (.malformedAttestation cause))

/-- **What is printed of a quote** hands it on, if its attestation can be decoded. -/
theorem handsOn_pretty {q : Quote} {a : Attestation} (h : Attestation.decode q.attestation = .ok a)
    (nonce : Bytes) :
    HandsOn (((QuoteFile.ofQuote nonce q).json a).pretty ++ "\n") nonce q := by
  have hFile := (QuoteFile.ofQuote nonce q).ofText?_pretty a "\n" (.inr rfl)
  obtain ⟨hNonce, hAttest, hSignature⟩ := QuoteFile.decode_ofQuote nonce q
  refine ⟨⟨_, hFile, hNonce, hAttest, hSignature⟩, ?_, ?_⟩
  · intro τ E state arguments o key expected expectedNonce hNamed hText hKey hExpected hNonceText
    have hPresent : o.Present (E.fetch state)
        ⟨q.attestation, q.signature, expectedNonce, expected, key⟩ :=
      ⟨⟨_, _, hText, hFile, hAttest, hSignature⟩, hKey, hExpected, hNonceText⟩
    exact Presents.verifyOutcome_eq ⟨o, hNamed, hPresent⟩
  · intro τ E state arguments o hNamed hText cause hFault
    by_cases hEvidence : ∃ e, Presents (E.fetch state) arguments e
    · obtain ⟨e, hPresents⟩ := hEvidence
      rw [hPresents.verifyOutcome_eq] at hFault
      obtain ⟨o', hNamed', ⟨text', file', hText', hFile', hAttest', -⟩, -⟩ := hPresents
      rw [← hNamed.quotePath_unique hNamed'] at hText'
      obtain rfl := hText.unique hText'
      obtain rfl := Option.some.inj (hFile.symm.trans hFile')
      have hRaw : q.attestation = e.raw := Except.ok.inj (hAttest.symm.trans hAttest')
      exact Evidence.fault_outcome_ne (hRaw ▸ h) cause hFault
    · obtain ⟨fault, hOutcome, hNe⟩ := exists_fault_of_not_presents hEvidence
      rw [hOutcome] at hFault
      exact hNe _ (Option.some.inj hFault)

/-! ### Printing a quote -/

variable {σ : Type} {E : Surroundings σ} {state : σ}

namespace Command

/-- A quote is **printed** when there is one and its attestation can be decoded. -/
theorem result_printQuote_eq_ok_iff {nonce : Bytes} {result : Except QuoteFailure Quote}
    {outcome : Outcome} :
    ((printQuote nonce result).episode E state).result = .ok outcome ↔
      ∃ q a, result = .ok q ∧ Attestation.decode q.attestation = .ok a ∧
        outcome = ⟨some ((QuoteFile.ofQuote nonce q).json a).pretty, none⟩ := by
  simp only [printQuote, result_bind_eq_ok_iff, episode_ofExcept, mapError_eq_ok_iff, episode_tell,
    episode_pure, Except.ok.injEq, exists_const, true_and]
  constructor
  · rintro ⟨q, hQuote, a, hDecode, rfl⟩
    exact ⟨q, a, hQuote, hDecode, rfl⟩
  · rintro ⟨q, a, hQuote, hDecode, rfl⟩
    exact ⟨q, hQuote, a, hDecode, rfl⟩

/-- **What it takes to print a quote**: the device is opened, and its answer to the command
carries a quote whose attestation can be decoded. -/
theorem result_carryOut_eq_ok_iff {settings : Settings} {r : QuoteRequest} {outcome : Outcome} :
    ((carryOut settings r).episode E state).result = .ok outcome ↔
      (E.openDevice settings.device state).1 = .ok () ∧ ∃ response q a,
        r.answer E.send (fun _ => pure ()) (E.openDevice settings.device state).2 = .ok response ∧
        Quote.Carries response q ∧ Attestation.decode q.attestation = .ok a ∧
        outcome = ⟨some ((QuoteFile.ofQuote r.nonce q).json a).pretty, none⟩ := by
  simp only [carryOut, result_bind_eq_ok_iff, episode_openDevice, mapError_eq_ok_iff,
    episode_session, Except.ok.injEq, exists_eq_left', result_printQuote_eq_ok_iff,
    QuoteRequest.run_session_eq_ok_iff]
  constructor
  · rintro ⟨_, hOpen, q, a, ⟨response, hAnswer, hCarries⟩, hDecode, rfl⟩
    exact ⟨hOpen, response, q, a, hAnswer, hCarries, hDecode, rfl⟩
  · rintro ⟨hOpen, response, q, a, hAnswer, hCarries, hDecode, rfl⟩
    exact ⟨(), hOpen, q, a, ⟨response, hAnswer, hCarries⟩, hDecode, rfl⟩

end Command

/-! ### The program -/

/-- The episode of the program that is run as `quote`. -/
def quoteEpisode (E : Surroundings σ) (arguments : List String) (state : σ) : Episode σ Outcome :=
  (run ("quote" :: arguments)).episode E state

/-- **Printed quotes are what the TPM returned.** A run of `quote` that exits with zero has
opened a device and sent it one command, and what it prints hands on the quote that the answer
carries, beside the nonce that stands in the command. If the attestation in an answer cannot be
decoded, the run prints nothing and does not exit with zero. -/
theorem quoteEpisode_hands_on (E : Surroundings σ) (arguments : List String) (state : σ) :
    ((quoteEpisode E arguments state).result.status = 0 →
      ∃ device command response keyHandle nonce selections scheme q,
        (quoteEpisode E arguments state).record =
          [.opened device (.ok ()), .sent command (.ok response)] ∧
        QuoteRequest.Layout keyHandle nonce selections scheme command ∧
        Quote.Carries response q ∧
        HandsOn (quoteEpisode E arguments state).result.output nonce q) ∧
    ∀ command response q,
      .sent command (.ok response) ∈ (quoteEpisode E arguments state).record →
      Quote.Carries response q → (∀ a, Attestation.decode q.attestation ≠ .ok a) →
      (quoteEpisode E arguments state).result.output = "" ∧
        (quoteEpisode E arguments state).result.status ≠ 0 := by
  rw [quoteEpisode]
  rcases (ordersFirst_quote E).refused_or_carried_out arguments state with
    ⟨hRecord, ⟨fault, hResult⟩, -⟩ | ⟨flags, ⟨settings, r⟩, later, -, -, hRecord, hResult⟩
  · rw [hResult, hRecord]
    exact ⟨fun hStatus => absurd hStatus Nat.one_ne_zero, nofun⟩
  rw [hResult, hRecord]
  cases hCarried : ((Command.carryOut settings r).episode E later).result with
  | error fault =>
      exact ⟨fun hStatus => absurd hStatus Nat.one_ne_zero, fun _ _ _ _ _ _ =>
        ⟨rfl, Nat.one_ne_zero⟩⟩
  | ok outcome =>
      obtain ⟨hOpen, response, q, a, hAnswer, hCarries, hDecode, rfl⟩ :=
        Command.result_carryOut_eq_ok_iff.mp hCarried
      have hActions : ((Command.carryOut settings r).episode E later).record = _ :=
        Command.record_carryOut_eq settings r later
      rw [hOpen, hAnswer] at hActions
      constructor
      · intro _
        exact ⟨settings.device, r.command, response, r.keyHandle, r.nonce, r.selections, r.scheme,
          q, hActions, r.layout_command, hCarries, handsOn_pretty hDecode r.nonce⟩
      · intro command response' q' hSent hCarries' hNone
        rw [hActions] at hSent
        simp only [List.mem_cons, reduceCtorEq, DeviceAction.sent.injEq, Except.ok.injEq,
          List.not_mem_nil, or_false, false_or] at hSent
        obtain ⟨rfl, rfl⟩ := hSent
        rw [hCarries'.unique hCarries] at hNone
        exact absurd hDecode (hNone a)

/-- A run of `quote` without flags, where the device answers with the response of an honest
run. -/
example : (quoteEpisode
    { fetch := fun _ _ => .error .notFound
      openDevice := fun _ => pure (.ok ())
      send := fun _ => pure (.ok HonestRun.response)
      draw := fun count => pure (List.replicate count 0)
      length_draw := fun _ _ => List.length_replicate } [] ()).result.status = 0 := by
  decide +kernel

end RemoteAttestation
