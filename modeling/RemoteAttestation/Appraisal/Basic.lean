import RemoteAttestation.Appraisal.Digest
import RemoteAttestation.Appraisal.Signing
import RemoteAttestation.Appraisal.Verdict

/-!
# Appraising Quotes

The three checks of a quote are made one after the other, whatever the earlier ones found, so a
verdict always tells about all of them. Each check that fails is told to the operator with its
reason. Decoding comes first and ends the appraisal when it fails.

## Main definitions

* `Appraisal`: what each check found.
* `appraise`: the checks of a decoded quote.
* `verify`, `verifyHex`: the appraisal of an undecoded quote.
-/

namespace RemoteAttestation

/-- A nonce that is not the expected one. -/
structure NonceMismatch where
  /-- The nonce in the quote. -/
  found : Bytes
  /-- The nonce that was expected. -/
  expected : Bytes
  deriving Repr, DecidableEq

/-- What the operator is told of the fault. -/
def NonceMismatch.notice (fault : NonceMismatch) : Notice :=
  ⟨.warn, s!"Quote nonce mismatch: extraData {Hex.encode fault.found}, " ++
    s!"expected {Hex.encode fault.expected}"⟩

/-- What the checks of a quote found. -/
structure Appraisal where
  /-- The check of the nonce. -/
  nonce : Except NonceMismatch Unit
  /-- The check of the PCR digest. -/
  pcrDigest : Except DigestFault Unit
  /-- The check of the signature. -/
  signature : Except SignatureFault Unit

/-- A result with what the operator is told on the way to it. -/
structure Noted (α : Type) where
  /-- The notices, in their order. -/
  notices : List Notice
  /-- The result. -/
  result : α

namespace Appraisal

/-- The verdict on a quote. -/
def verdict (a : Appraisal) : Verdict :=
  ⟨a.nonce.isOk, a.pcrDigest.isOk, a.signature.isOk⟩

/-- The notices that a failed check gives rise to. -/
def faultNotices {ε : Type} (notice : ε → Notice) : Except ε Unit → List Notice
  | .ok () => []
  | .error fault => [notice fault]

/-- What the operator is told of an appraisal with a key and a signature. -/
def notices (a : Appraisal) (key : AttestationKey) (s : Signature) : List Notice :=
  faultNotices NonceMismatch.notice a.nonce ++ faultNotices DigestFault.notice a.pcrDigest ++
    key.checkNotices s a.signature ++
    [⟨.debug, s!"Quote verification: {a.verdict.noticeForm}"⟩]

end Appraisal

/-- The check of a quote's nonce. -/
def Attestation.checkNonce (a : Attestation) (expected : Bytes) : Except NonceMismatch Unit :=
  if a.extraData = expected then .ok () else .error ⟨a.extraData, expected⟩

/-- The **checks** of a decoded quote. The signature is checked over `raw`, the attestation as
it was received. -/
def appraise (raw : Bytes) (a : Attestation) (s : Signature) (nonce : Bytes)
    (expected : PcrValues) (key : AttestationKey) : Appraisal where
  nonce := a.checkNonce nonce
  pcrDigest := a.checkDigest s expected
  signature := key.check s raw

/-- The verdict on a decoded quote, with the notices of its appraisal. -/
def verifyDecoded (raw : Bytes) (a : Attestation) (s : Signature) (nonce : Bytes)
    (expected : PcrValues) (key : AttestationKey) : Noted Verdict :=
  let appraisal := appraise raw a s nonce expected key
  ⟨appraisal.notices key s, appraisal.verdict⟩

/-- The **verdict** on a quote, or the fault that keeps it from being decoded. The attestation
is decoded before the signature. -/
def verify (raw rawSignature nonce : Bytes) (expected : PcrValues) (key : AttestationKey) :
    Noted (Except VerifyFault Verdict) :=
  match Attestation.decode raw with
  | .error fault => ⟨[], .error (.malformedAttestation fault)⟩
  | .ok a =>
    match Signature.decode rawSignature with
    | .error fault => ⟨[a.notice], .error (.malformedSignature fault)⟩
    | .ok s =>
      let verdict := verifyDecoded raw a s nonce expected key
      ⟨a.notice :: verdict.notices, .ok verdict.result⟩

/-- The verdict on a quote whose parts, and whose expected nonce, are given in hexadecimal. -/
def verifyHex (raw rawSignature nonce : String) (expected : PcrValues) (key : AttestationKey) :
    Noted (Except VerifyFault Verdict) :=
  let decoded : Except HexFault (Bytes × Bytes × Bytes) := do
    return (← Hex.decode raw, ← Hex.decode rawSignature, ← Hex.decode nonce)
  match decoded with
  | .error fault => ⟨[], .error (.hex fault)⟩
  | .ok (raw, rawSignature, nonce) => verify raw rawSignature nonce expected key

end RemoteAttestation
