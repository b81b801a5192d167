import RemoteAttestation.Attestation
import RemoteAttestation.Key.Basic
import RemoteAttestation.Signature

/-!
# Verdicts

Three checks decide whether a quote can be relied on: it must be fresh, it must cover the PCRs
with the values that are expected, and it must be signed by the right key. A verdict says which
of them succeeded; a caller that only wants to reject asks for its judgement, which tells a
quote that is merely stale from one that cannot be trusted.

## Main definitions

* `Check`: the three checks by name.
* `Verdict`: the outcome of each, with `Verdict.overall` and `Verdict.failedChecks`.
* `VerifyFault`: why a quote is rejected.
* `Verdict.judgement`: nothing, or the fault of a rejected quote.
-/

namespace RemoteAttestation

/-- What is checked of a quote. -/
inductive Check where
  | nonce
  | pcrDigest
  | signature
  deriving Repr, DecidableEq

/-- The name of a check. -/
def Check.name : Check → String
  | nonce => "nonce"
  | pcrDigest => "pcr digest"
  | signature => "signature"

/-- The outcome of the checks. -/
structure Verdict where
  /-- The quote repeats the expected nonce. -/
  nonceMatches : Bool
  /-- The quote covers the expected PCRs with the expected values. -/
  pcrDigestMatches : Bool
  /-- The quote is signed by the key. -/
  signatureValid : Bool
  deriving Repr, DecidableEq

/-- Why a quote is rejected. -/
inductive VerifyFault where
  /-- The attestation cannot be decoded. -/
  | malformedAttestation (fault : AttestationFault)
  /-- The signature cannot be decoded. -/
  | malformedSignature (fault : SignatureFormFault)
  /-- The key cannot be loaded. -/
  | invalidKey (fault : KeyFault)
  /-- Only the nonce is wrong. -/
  | stale
  /-- These checks failed. -/
  | untrusted (failed : List Check)
  /-- A text is not hexadecimal. -/
  | hex (fault : HexFault)
  deriving Repr, DecidableEq

/-- The wording of a fault. -/
def VerifyFault.message : VerifyFault → String
  | malformedAttestation fault => s!"malformed attestation: {fault.message}"
  | malformedSignature fault => s!"malformed signature: {fault.message}"
  | invalidKey fault => s!"invalid AK public key: {fault.message}"
  | stale => "attestation is stale: nonce does not match"
  | untrusted failed =>
    "attestation is untrusted: failed checks: " ++
      String.intercalate ", " (failed.map Check.name)
  | hex fault => s!"hex decode error: {fault.message}"

namespace Verdict

/-- Whether **every** check succeeded. -/
def overall (v : Verdict) : Bool :=
  v.nonceMatches && v.pcrDigestMatches && v.signatureValid

/-- Whether a check succeeded. -/
def passed (v : Verdict) : Check → Bool
  | .nonce => v.nonceMatches
  | .pcrDigest => v.pcrDigestMatches
  | .signature => v.signatureValid

/-- The checks that **failed**, in a fixed order. -/
def failedChecks (v : Verdict) : List Check :=
  [Check.nonce, Check.pcrDigest, Check.signature].filter fun check => !v.passed check

/-- Nothing for a quote that passed, or the fault of one that did not. A quote is stale when
only its nonce is wrong. -/
def judgement (v : Verdict) : Except VerifyFault Unit :=
  if v.overall then .ok ()
  else if v.pcrDigestMatches && v.signatureValid then .error .stale
  else .error (.untrusted v.failedChecks)

/-- The verdict for an operator. -/
def report (v : Verdict) : Json :=
  .object [
    ("nonce_matches", .bool v.nonceMatches),
    ("pcr_digest_matches", .bool v.pcrDigestMatches),
    ("signature_valid", .bool v.signatureValid),
    ("overall", .bool v.overall)]

/-- The form in which notices show a verdict. -/
def noticeForm (v : Verdict) : String :=
  "VerificationResult \x7b " ++
    s!"nonce_matches: {v.nonceMatches}, pcr_digest_matches: {v.pcrDigestMatches}, " ++
    s!"signature_valid: {v.signatureValid}, overall: {v.overall} \x7d"

end Verdict

end RemoteAttestation
