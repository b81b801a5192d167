import RemoteAttestation.Device.Response

/-!
# Quoting

The response to a request for a quote holds, behind the size of the area they fill, the
attestation behind its own size and the signature, which runs to the end of the area. The
authorisation that follows the area is not looked at. The two sizes are checked against each
other and against the body, and the attestation and the signature are returned as they came.

## Main definitions

* `Quote`: an attestation and its signature, still undecoded.
* `Quote.read`: the reader of a response body.
* `QuoteRequest.session`: the session that asks for a quote.
-/

namespace RemoteAttestation

/-- What a TPM signs and its signature, octet for octet as they were received. -/
structure Quote where
  /-- The attestation. -/
  attestation : Bytes
  /-- The signature. -/
  signature : Bytes
  deriving Repr, DecidableEq

/-- Why a request yields no quote. -/
inductive QuoteFault where
  /-- There is no response body. -/
  | response (fault : ResponseFault)
  /-- The body is cut short. -/
  | underflow (fault : Underflow)
  /-- The area is larger than the rest of the body. -/
  | areaTooLarge (size : UInt32) (available : Nat)
  /-- The attestation does not fit in the area. -/
  | areaTooSmall (size : UInt32) (needed : Nat)
  /-- There is no room for a signature in the area. -/
  | noSignature
  deriving Repr, DecidableEq

/-- The wording of a fault. -/
def QuoteFault.message : QuoteFault → String
  | response fault => fault.message
  | underflow fault => fault.message
  | areaTooLarge size available =>
    s!"Quote parameterSize {size.toNat} exceeds response body ({available} bytes left)"
  | areaTooSmall size needed =>
    s!"Parameter size mismatch in Quote: TPM said {size.toNat} bytes, " ++
      s!"attestation alone is {needed}"
  | noSignature => "Quote response carries no signature"

/-- The failure of a request, with the key that was to sign. -/
structure QuoteFailure where
  /-- The handle of the key. -/
  keyHandle : UInt32
  /-- The cause. -/
  cause : QuoteFault
  deriving Repr, DecidableEq

namespace QuoteFailure

/-- The failure and its cause. -/
def chain (failure : QuoteFailure) : String :=
  s!"TPM2_Quote with key 0x{Hex.encodeUpper (Wire.u32 failure.keyHandle)} failed: " ++
    failure.cause.message

/-- The wording of a failure. -/
def message (failure : QuoteFailure) : String :=
  s!"TPM device error: {failure.chain}"

end QuoteFailure

/-- Reads a **quote** from a response body. -/
def Quote.read : Reader QuoteFault Quote := do
  let size ← Reader.u32.orFail .underflow
  let start ← Reader.offset
  let available ← Reader.remaining
  if available < size.toNat then throw (.areaTooLarge size available)
  let attestation ← Reader.sized.orFail .underflow
  let used := (← Reader.offset) - start
  if size.toNat < used then throw (.areaTooSmall size used)
  let signature ← (Reader.take (size.toNat - used)).orFail .underflow
  if signature.length < 2 then throw .noSignature
  return ⟨attestation, signature⟩

/-- The quote in a response body, or the cause of a failure. -/
def Quote.ofBody (body : Except ResponseFault Bytes) : Except QuoteFault Quote :=
  match body with
  | .error fault => .error (.response fault)
  | .ok body => Quote.read.parse body

/-- The **session** that asks for a quote. -/
def QuoteRequest.session (request : QuoteRequest) : Session (Except QuoteFailure Quote) :=
  .tell (.quoteRequested request) do
    match Quote.ofBody (← Session.request request.command) with
    | .error cause => return .error ⟨request.keyHandle, cause⟩
    | .ok quote =>
      .tell (.quoteReceived quote.attestation.length quote.signature.length) (return .ok quote)

end RemoteAttestation
