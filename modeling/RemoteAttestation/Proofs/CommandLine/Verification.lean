import RemoteAttestation.Proofs.CommandLine.Flags
import RemoteAttestation.Proofs.CommandLine.Surroundings

/-!
# The Verification Command

Scripts rely on the exit status of `verify`, and on nothing that the attester says about
itself. What decides is the **evidence**: the octets of the attestation and of the signature,
the nonce, the expected values and the key, which the arguments and the files present
(`Presents`). The files may be any, wherever they are. The command succeeds when there is
evidence and its appraisal gives a positive verdict, and it prints a verdict whenever the
appraisal gives one.

What it prints, and what it says of a quote that it rejects, is read by scripts too. So the
text of a verdict and the complaint about it are spelled out here letter by letter
(`Verdict.text`, `Verdict.Rejected`).

## Main results

* `Command.result_evidence_eq_ok_iff`: the evidence that the command takes together.
* `Presents.verifyOutcome_eq`: evidence decides the outcome, by its verdict or its fault.
* `run_verify_outcome`: the exit status, the output and the complaint of the program.
-/

namespace RemoteAttestation

variable {σ : Type} {E : Surroundings σ} {state : σ}
  {fetch : String → Except FileFault Bytes} {arguments : List String}

/-- What a quote is appraised by. -/
structure Evidence where
  /-- The attestation as it was received. -/
  raw : Bytes
  /-- The signature as it was received. -/
  rawSignature : Bytes
  /-- The expected nonce. -/
  nonce : Bytes
  /-- The expected values. -/
  expected : PcrValues
  /-- The key. -/
  key : AttestationKey

/-- The appraisal of the evidence. -/
def Evidence.appraisal (e : Evidence) : Except VerifyFault Verdict :=
  (verify e.raw e.rawSignature e.nonce e.expected e.key).result

/-- The operands of the command: what its arguments name. -/
structure VerifyOperands where
  /-- The path of the quote file. -/
  quotePath : String
  /-- The path of the key file. -/
  keyPath : String
  /-- The path of the file of expected values. -/
  pcrPath : String
  /-- The nonce in hexadecimal. -/
  nonceText : String

/-- The arguments **name** the operands: they are flags of the command with their values, and
of each flag the last value counts. -/
def VerifyOperands.NamedBy (o : VerifyOperands) (arguments : List String) : Prop :=
  ∃ pairs, arguments = Flags.written pairs ∧
    (∀ p ∈ pairs, p.1 ∈ ["--quote", "--ak", "--pcr-values", "--nonce"]) ∧
    Flags.LastValue pairs "--quote" o.quotePath ∧ Flags.LastValue pairs "--ak" o.keyPath ∧
    Flags.LastValue pairs "--pcr-values" o.pcrPath ∧ Flags.LastValue pairs "--nonce" o.nonceText

/-- Arguments name **one quote file**. -/
theorem VerifyOperands.NamedBy.quotePath_unique {o o' : VerifyOperands}
    (h : o.NamedBy arguments) (h' : o'.NamedBy arguments) : o.quotePath = o'.quotePath := by
  obtain ⟨pairs, hWritten, hKnown, hQuote, -⟩ := h
  obtain ⟨pairs', hWritten', hKnown', hQuote', -⟩ := h'
  have hParse := Flags.parsePairs_eq_ok_iff.mpr ⟨hWritten, hKnown⟩
  have hParse' := Flags.parsePairs_eq_ok_iff.mpr ⟨hWritten', hKnown'⟩
  obtain rfl := Except.ok.inj (hParse.symm.trans hParse')
  exact hQuote.unique hQuote'

/-- The files and the nonce that the operands stand for **present** the evidence. -/
structure VerifyOperands.Present (o : VerifyOperands) (fetch : String → Except FileFault Bytes)
    (e : Evidence) : Prop where
  /-- The quote file is a text in the form of such files, with the attestation and the
  signature in hexadecimal. -/
  quote : ∃ text file, HasText fetch o.quotePath text ∧ QuoteFile.ofText? text = some file ∧
    Hex.decode file.attest = .ok e.raw ∧ Hex.decode file.signature = .ok e.rawSignature
  /-- The key file holds the key. -/
  key : ∃ b, fetch o.keyPath = .ok b ∧ AttestationKey.load b = .ok e.key
  /-- The file of expected values holds these. -/
  expected : ∃ text, HasText fetch o.pcrPath text ∧ PcrValues.ofText text = .ok e.expected
  /-- The nonce is hexadecimal. -/
  nonce : Hex.decode o.nonceText = .ok e.nonce

/-- The arguments and the files **present** the evidence. -/
def Presents (fetch : String → Except FileFault Bytes) (arguments : List String) (e : Evidence) :
    Prop :=
  ∃ o : VerifyOperands, o.NamedBy arguments ∧ o.Present fetch e

/-- The outcome that goes with a verdict: the verdict is printed, and one that is not positive
is a fault as well. -/
def Verdict.outcome (v : Verdict) : Outcome where
  printed := some v.report.pretty
  fault := match v.judgement with
    | .ok () => none
    | .error fault => some (.verify fault)

/-- The outcome that goes with the evidence: that of its verdict, or its fault by itself. -/
def Evidence.outcome (e : Evidence) : Outcome :=
  match e.appraisal with
  | .ok v => v.outcome
  | .error fault => ⟨none, some (.verify fault)⟩

namespace Command

/-- The **evidence** that the flags and the files present. -/
def evidence (flags : Flags) : Command Evidence := do
  let quotePath ← ofExcept .flag (flags.require "--quote")
  let keyPath ← ofExcept .flag (flags.require "--ak")
  let pcrPath ← ofExcept .flag (flags.require "--pcr-values")
  let nonceText ← ofExcept .flag (flags.require "--nonce")
  let quoteText ← readText .quote quotePath
  let some file := QuoteFile.ofText? quoteText | throw (.quoteFile quotePath)
  let key ← ofExcept (.key keyPath) (AttestationKey.load (← readBytes .key keyPath))
  let expected ← ofExcept .pcrFile (PcrValues.ofText (← readText .pcrValues pcrPath))
  let nonce ← ofExcept (.notHex "--nonce") (Hex.decode nonceText)
  tell (nonceNotices file nonceText)
  let raw ← ofExcept (.notHex "attest") (Hex.decode file.attest)
  let rawSignature ← ofExcept (.notHex "signature") (Hex.decode file.signature)
  return ⟨raw, rawSignature, nonce, expected, key⟩

/-- What becomes of the evidence: an outcome, or the fault of the appraisal. -/
def conclude (e : Evidence) : Command Outcome := do
  let verdict := RemoteAttestation.verify e.raw e.rawSignature e.nonce e.expected e.key
  tell (verifierNotice e.key e.expected :: verdict.notices)
  let verdict ← ofExcept .verify verdict.result
  return verdict.outcome

/-- A verification **takes the evidence together first**, and then it is concluded. -/
theorem verify_eq (flags : Flags) : verify flags = evidence flags >>= conclude := by
  simp only [verify, evidence, bind_assoc]
  refine congrArg (_ >>= ·) (funext fun quotePath => congrArg (_ >>= ·) (funext fun keyPath =>
    congrArg (_ >>= ·) (funext fun pcrPath => congrArg (_ >>= ·) (funext fun nonceText =>
      congrArg (_ >>= ·) (funext fun quoteText => ?_)))))
  cases QuoteFile.ofText? quoteText with
  | none => rfl
  | some file =>
      simp only [bind_assoc, pure_bind]
      rfl

/-- Taking the evidence together only consults files. -/
theorem consults_evidence (flags : Flags) : (evidence flags).Consults E := by
  refine (consults_ofExcept _ _).bind fun quotePath => (consults_ofExcept _ _).bind fun keyPath =>
    (consults_ofExcept _ _).bind fun pcrPath => (consults_ofExcept _ _).bind fun nonceText =>
    (consults_readText _ _).bind fun text => ?_
  cases QuoteFile.ofText? text with
  | none => exact fun _ => ⟨rfl, rfl⟩
  | some file =>
      exact (consults_readBytes _ _).bind fun b => (consults_ofExcept _ _).bind fun key =>
        (consults_readText _ _).bind fun pcrText => (consults_ofExcept _ _).bind fun expected =>
        (consults_ofExcept _ _).bind fun nonce => (consults_tell _).bind fun _ =>
        (consults_ofExcept _ _).bind fun raw => (consults_ofExcept _ _).bind fun rawSignature =>
        consults_pure _

/-- The evidence that the operands present. -/
theorem result_evidence_eq_ok_iff {flags : Flags} {e : Evidence} :
    ((evidence flags).episode E state).result = .ok e ↔
      ∃ o : VerifyOperands,
        (Flags.LastValue flags.pairs "--quote" o.quotePath ∧
          Flags.LastValue flags.pairs "--ak" o.keyPath ∧
          Flags.LastValue flags.pairs "--pcr-values" o.pcrPath ∧
          Flags.LastValue flags.pairs "--nonce" o.nonceText) ∧
        o.Present (E.fetch state) e := by
  simp only [evidence, (consults_ofExcept _ _).result_bind_eq_ok_iff,
    (consults_readText _ _).result_bind_eq_ok_iff, episode_ofExcept, mapError_eq_ok_iff,
    Flags.require_eq_ok_iff, result_readText_eq_ok_iff]
  constructor
  · rintro ⟨quotePath, hQuotePath, keyPath, hKeyPath, pcrPath, hPcrPath, nonceText, hNonceText,
      text, hText, h⟩
    cases hFile : QuoteFile.ofText? text with
    | none =>
        rw [hFile] at h
        cases h
    | some file =>
        rw [hFile] at h
        simp only [(consults_readBytes _ _).result_bind_eq_ok_iff,
          (consults_ofExcept _ _).result_bind_eq_ok_iff,
          (consults_readText _ _).result_bind_eq_ok_iff, (consults_tell _).result_bind_eq_ok_iff,
          episode_readBytes, episode_ofExcept, mapError_eq_ok_iff, result_readText_eq_ok_iff,
          episode_tell, episode_pure, Except.ok.injEq] at h
        obtain ⟨b, hFetch, key, hKey, pcrText, hPcrText, expected, hExpected, nonce, hNonce, -, -,
          raw, hRaw, rawSignature, hSignature, rfl⟩ := h
        exact ⟨⟨quotePath, keyPath, pcrPath, nonceText⟩,
          ⟨hQuotePath, hKeyPath, hPcrPath, hNonceText⟩,
          ⟨⟨text, file, hText, hFile, hRaw, hSignature⟩, ⟨b, hFetch, hKey⟩,
            ⟨pcrText, hPcrText, hExpected⟩, hNonce⟩⟩
  · rintro ⟨o, ⟨hQuotePath, hKeyPath, hPcrPath, hNonceText⟩,
      ⟨⟨text, file, hText, hFile, hRaw, hSignature⟩, ⟨b, hFetch, hKey⟩,
        ⟨pcrText, hPcrText, hExpected⟩, hNonce⟩⟩
    refine ⟨o.quotePath, hQuotePath, o.keyPath, hKeyPath, o.pcrPath, hPcrPath, o.nonceText,
      hNonceText, text, hText, ?_⟩
    rw [hFile]
    simp only [(consults_readBytes _ _).result_bind_eq_ok_iff,
      (consults_ofExcept _ _).result_bind_eq_ok_iff, (consults_readText _ _).result_bind_eq_ok_iff,
      (consults_tell _).result_bind_eq_ok_iff, episode_readBytes, episode_ofExcept,
      mapError_eq_ok_iff, result_readText_eq_ok_iff, episode_tell, episode_pure, Except.ok.injEq]
    exact ⟨b, hFetch, e.key, hKey, pcrText, hPcrText, e.expected, hExpected, e.nonce, hNonce,
      (), trivial, e.raw, hRaw, e.rawSignature, hSignature, rfl⟩

/-- Taking the evidence together is no appraisal: its faults are those of flags and files. -/
theorem result_evidence_ne_error_verify (E : Surroundings σ) (state : σ) (flags : Flags)
    (fault : VerifyFault) : ((evidence flags).episode E state).result ≠ .error (.verify fault) := by
  have hReadable : ∀ role path,
      ¬ ((readText role path).episode E state).result = .error (.verify fault) := by
    intro role path h
    obtain ⟨cause, hCause⟩ := exists_of_result_readText_eq_error h
    cases hCause
  intro h
  simp only [evidence, (consults_ofExcept _ _).result_bind_eq_error_iff,
    (consults_readText _ _).result_bind_eq_error_iff, episode_ofExcept, mapError_eq_error_iff,
    hReadable, reduceCtorEq, and_false, exists_false, false_or] at h
  obtain ⟨_, _, _, _, _, _, _, _, text, _, h⟩ := h
  cases hFile : QuoteFile.ofText? text with
  | none =>
      rw [hFile] at h
      cases h
  | some file =>
      rw [hFile] at h
      simp only [(consults_readBytes _ _).result_bind_eq_error_iff,
        (consults_ofExcept _ _).result_bind_eq_error_iff,
        (consults_readText _ _).result_bind_eq_error_iff,
        (consults_tell _).result_bind_eq_error_iff, episode_readBytes, episode_ofExcept,
        mapError_eq_error_iff, episode_tell, episode_pure, hReadable, reduceCtorEq, and_false,
        exists_false, or_false] at h

/-- The conclusion from the evidence is that of its appraisal, and consults nothing. -/
theorem episode_conclude (e : Evidence) (state : σ) :
    (conclude e).episode E state =
      ⟨(e.appraisal.mapError .verify).map Verdict.outcome, [], state⟩ := by
  rw [conclude, (consults_tell _).silent.episode_bind, episode_tell]
  dsimp only
  rw [(consults_ofExcept _ _).silent.episode_bind, episode_ofExcept, ← Evidence.appraisal]
  cases e.appraisal with
  | ok v => rfl
  | error fault => rfl

end Command

/-! ### Verdicts and outcomes -/

namespace Verdict

/-- The **text** that is printed of a verdict: the three checks, and whether all of them
succeeded, each on a line. -/
def text (v : Verdict) : String :=
  "\x7b\n" ++
  "  \"nonce_matches\": " ++ toString v.nonceMatches ++ ",\n" ++
  "  \"pcr_digest_matches\": " ++ toString v.pcrDigestMatches ++ ",\n" ++
  "  \"signature_valid\": " ++ toString v.signatureValid ++ ",\n" ++
  "  \"overall\": " ++
    toString (v.nonceMatches && v.pcrDigestMatches && v.signatureValid) ++ "\n" ++
  "\x7d\n"

/-- The checks that failed, in their order, with the names that the operator is told. -/
def failures (v : Verdict) : List (Check × String) :=
  (if v.nonceMatches then [] else [(.nonce, "nonce")]) ++
  (if v.pcrDigestMatches then [] else [(.pcrDigest, "pcr digest")]) ++
  if v.signatureValid then [] else [(.signature, "signature")]

/-- The outcome is that of a **rejected** quote. -/
structure Rejected (v : Verdict) (outcome : Outcome) : Prop where
  /-- It is a failure. -/
  status_ne : outcome.status ≠ 0
  /-- A quote is stale when only its nonce is wrong. -/
  stale : v.pcrDigestMatches = true → v.signatureValid = true →
    outcome.fault = some (.verify .stale) ∧
      outcome.complaint = some "Error: attestation is stale: nonce does not match"
  /-- Any other is untrusted, and the checks that failed are named. -/
  untrusted : v.pcrDigestMatches = false ∨ v.signatureValid = false →
    outcome.fault = some (.verify (.untrusted (v.failures.map Prod.fst))) ∧
      outcome.complaint = some ("Error: attestation is untrusted: failed checks: " ++
        String.intercalate ", " (v.failures.map Prod.snd))

/-- The exit status of a verdict tells whether it is **positive**. -/
theorem status_outcome_eq_zero_iff {v : Verdict} :
    v.outcome.status = 0 ↔ v.overall = true := by
  obtain ⟨nonce, digest, signature⟩ := v
  cases nonce <;> cases digest <;> cases signature <;> decide

/-- **What is printed of a verdict** is its text. -/
theorem output_outcome (v : Verdict) : v.outcome.output = v.text := by
  obtain ⟨nonce, digest, signature⟩ := v
  cases nonce <;> cases digest <;> cases signature <;> rfl

/-- Something is printed of every verdict. -/
theorem text_ne_empty (v : Verdict) : v.text ≠ "" := by
  obtain ⟨nonce, digest, signature⟩ := v
  cases nonce <;> cases digest <;> cases signature <;> decide

/-- A verdict that is not positive **rejects** the quote. -/
theorem rejected_outcome {v : Verdict} (h : v.overall = false) : v.Rejected v.outcome := by
  obtain ⟨nonce, digest, signature⟩ := v
  cases nonce <;> cases digest <;> cases signature
  case true.true.true => cases h
  all_goals exact ⟨by decide, by decide, by decide⟩

end Verdict

/-! ### The program -/

/-- The outcome of the program that is run as `verify`. -/
def verifyOutcome (E : Surroundings σ) (state : σ) (arguments : List String) : Outcome :=
  ((run ("verify" :: arguments)).episode E state).result

/-- **Evidence decides the outcome.** -/
theorem Presents.verifyOutcome_eq {e : Evidence} (h : Presents (E.fetch state) arguments e) :
    verifyOutcome E state arguments = e.outcome := by
  obtain ⟨o, ⟨pairs, hWritten, hKnown, hNamed⟩, hPresent⟩ := h
  have hFlags : Flags.parse Command.verifyFlags arguments = .ok ⟨pairs⟩ :=
    Flags.parse_eq_ok_iff.mpr ⟨hWritten, hKnown⟩
  have hEvidence : ((Command.evidence ⟨pairs⟩).episode E state).result = .ok e :=
    Command.result_evidence_eq_ok_iff.mpr ⟨o, hNamed, hPresent⟩
  rw [verifyOutcome, episode_run, Command.ofArguments, Command.withFlags,
    (Command.consults_ofExcept _ _).silent.episode_bind, Command.episode_ofExcept, hFlags]
  dsimp only [mapError_ok]
  rw [Command.verify_eq, (Command.consults_evidence _).silent.episode_bind, hEvidence]
  dsimp only
  rw [Command.episode_conclude, Evidence.outcome]
  cases e.appraisal with
  | ok v => rfl
  | error fault => rfl

/-- Without evidence nothing is printed, and the fault is one of flags or files. -/
theorem exists_fault_of_not_presents (h : ¬ ∃ e, Presents (E.fetch state) arguments e) :
    ∃ fault, verifyOutcome E state arguments = ⟨none, some fault⟩ ∧
      ∀ cause, fault ≠ .verify cause := by
  rw [verifyOutcome, episode_run, Command.ofArguments, Command.withFlags,
    (Command.consults_ofExcept _ _).silent.episode_bind, Command.episode_ofExcept]
  cases hFlags : Flags.parse Command.verifyFlags arguments with
  | error fault => exact ⟨.flag fault, rfl, nofun⟩
  | ok flags =>
      obtain ⟨hWritten, hKnown⟩ := Flags.parse_eq_ok_iff.mp hFlags
      dsimp only [mapError_ok]
      rw [Command.verify_eq, (Command.consults_evidence _).silent.episode_bind]
      cases hEvidence : ((Command.evidence flags).episode E state).result with
      | ok e =>
          obtain ⟨o, hNamed, hPresent⟩ := Command.result_evidence_eq_ok_iff.mp hEvidence
          exact absurd ⟨e, o, ⟨flags.pairs, hWritten, hKnown, hNamed⟩, hPresent⟩ h
      | error fault =>
          refine ⟨fault, rfl, ?_⟩
          rintro cause rfl
          exact Command.result_evidence_ne_error_verify E state flags cause hEvidence

/-- An attestation that can be decoded is never called malformed. -/
theorem Evidence.fault_outcome_ne {e : Evidence} {a : Attestation}
    (h : Attestation.decode e.raw = .ok a) (cause : AttestationFault) :
    e.outcome.fault ≠ some (.verify (.malformedAttestation cause)) := by
  rw [outcome, appraisal, verify, h]
  intro hFault
  cases hSignature : Signature.decode e.rawSignature with
  | error fault =>
      rw [hSignature] at hFault
      cases hFault
  | ok s =>
      rw [hSignature] at hFault
      dsimp only at hFault
      generalize (verifyDecoded e.raw a s e.nonce e.expected e.key).result = v at hFault
      obtain ⟨nonce, digest, signature⟩ := v
      cases nonce <;> cases digest <;> cases signature <;> cases hFault

/-- Evidence that has a verdict decides the outcome. -/
theorem verifyOutcome_of_presents {e : Evidence} {v : Verdict}
    (hPresents : Presents (E.fetch state) arguments e) (hVerdict : e.appraisal = .ok v) :
    verifyOutcome E state arguments = v.outcome := by
  rw [hPresents.verifyOutcome_eq, Evidence.outcome, hVerdict]

/-- Without a verdict nothing is printed, and there is a fault. -/
theorem verifyOutcome_of_not_presents
    (h : ¬ ∃ e v, Presents (E.fetch state) arguments e ∧ e.appraisal = .ok v) :
    ∃ fault, verifyOutcome E state arguments = ⟨none, some fault⟩ := by
  by_cases hEvidence : ∃ e, Presents (E.fetch state) arguments e
  · obtain ⟨e, hPresents⟩ := hEvidence
    rw [hPresents.verifyOutcome_eq, Evidence.outcome]
    cases hAppraisal : e.appraisal with
    | ok v => exact absurd ⟨e, v, hPresents, hAppraisal⟩ h
    | error fault => exact ⟨_, rfl⟩
  · obtain ⟨fault, hOutcome, -⟩ := exists_fault_of_not_presents hEvidence
    exact ⟨fault, hOutcome⟩

/-- **Exit status, output and complaint.** The program that is run as `verify` exits with zero
just when its arguments and files present evidence whose verdict is positive. It prints
something just when they present evidence that has a verdict, and then it prints the text of
this verdict, whether or not it is positive; a verdict that is not positive is a failure with a
complaint, which calls the quote stale when only the nonce is wrong and otherwise names the
checks that failed. -/
theorem run_verify_outcome (E : Surroundings σ) (state : σ) (arguments : List String) :
    ((verifyOutcome E state arguments).status = 0 ↔
      ∃ e v, Presents (E.fetch state) arguments e ∧ e.appraisal = .ok v ∧ v.overall = true) ∧
    ((verifyOutcome E state arguments).output ≠ "" ↔
      ∃ e v, Presents (E.fetch state) arguments e ∧ e.appraisal = .ok v) ∧
    ∀ e v, Presents (E.fetch state) arguments e → e.appraisal = .ok v →
      (verifyOutcome E state arguments).output = v.text ∧
      (v.overall = false → v.Rejected (verifyOutcome E state arguments)) := by
  refine ⟨?_, ?_, ?_⟩
  · constructor
    · intro hStatus
      by_cases hVerdict : ∃ e v, Presents (E.fetch state) arguments e ∧ e.appraisal = .ok v
      · obtain ⟨e, v, hPresents, hVerdict⟩ := hVerdict
        rw [verifyOutcome_of_presents hPresents hVerdict,
          Verdict.status_outcome_eq_zero_iff] at hStatus
        exact ⟨e, v, hPresents, hVerdict, hStatus⟩
      · obtain ⟨fault, hOutcome⟩ := verifyOutcome_of_not_presents hVerdict
        rw [hOutcome] at hStatus
        cases hStatus
    · rintro ⟨e, v, hPresents, hVerdict, hOverall⟩
      rw [verifyOutcome_of_presents hPresents hVerdict]
      exact Verdict.status_outcome_eq_zero_iff.mpr hOverall
  · constructor
    · intro hOutput
      refine Classical.byContradiction fun hVerdict => ?_
      obtain ⟨fault, hOutcome⟩ := verifyOutcome_of_not_presents hVerdict
      exact hOutput (by rw [hOutcome]; rfl)
    · rintro ⟨e, v, hPresents, hVerdict⟩
      rw [verifyOutcome_of_presents hPresents hVerdict, Verdict.output_outcome]
      exact v.text_ne_empty
  · intro e v hPresents hVerdict
    rw [verifyOutcome_of_presents hPresents hVerdict]
    exact ⟨v.output_outcome, v.rejected_outcome⟩

end RemoteAttestation
