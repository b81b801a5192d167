import RemoteAttestation.Device.Session
import RemoteAttestation.Wire.Reader

/-!
# Responses

A response begins with a header of ten octets: a tag, the size of the whole and a code. A body
is handed on only when the size is right and the code says that the command succeeded; what a
failed command returns is never taken apart.

## Main definitions

* `ResponseFault`: why there is no body.
* `Response.body`: the body of a response.
* `Session.request`: a command whose response body the session goes on with.
-/

namespace RemoteAttestation

/-- Why a command yields no response body. -/
inductive ResponseFault where
  /-- There is no response. -/
  | transport (fault : TransportFault)
  /-- The response is shorter than a header. -/
  | truncated (size : Nat)
  /-- The header states another size. -/
  | sizeMismatch (stated : UInt32) (size : Nat)
  /-- The TPM refused the command. -/
  | refused (code : UInt32)
  deriving Repr, DecidableEq

/-- The wording of a fault. -/
def ResponseFault.message : ResponseFault → String
  | transport fault => fault.message
  | truncated size => s!"Truncated TPM response: {size} bytes"
  | sizeMismatch stated size =>
    s!"TPM response size mismatch: header says {stated.toNat} bytes, got {size}"
  | refused code => s!"TPM command failed with code: 0x{Hex.encodeUpper (Wire.u32 code)}"

namespace Response

/-- The size that a header states. -/
def statedSize (response : Bytes) : UInt32 :=
  UInt32.ofNat (Bytes.value ((response.drop 2).take 4))

/-- The code in a header. -/
def code (response : Bytes) : UInt32 :=
  UInt32.ofNat (Bytes.value ((response.drop 6).take 4))

/-- The **body** of a response. -/
def body (response : Bytes) : Except ResponseFault Bytes :=
  if response.length < TpmCommand.headerSize then .error (.truncated response.length)
  else if (statedSize response).toNat ≠ response.length then
    .error (.sizeMismatch (statedSize response) response.length)
  else if code response ≠ 0 then .error (.refused (code response))
  else .ok (response.drop TpmCommand.headerSize)

/-- The body of what a transport returns. -/
def bodyOf : Except TransportFault Bytes → Except ResponseFault Bytes
  | .error fault => .error (.transport fault)
  | .ok response => body response

end Response

/-- The session that sends a command and ends with the body of its response. -/
def Session.request (command : Bytes) : Session (Except ResponseFault Bytes) :=
  .send command fun response => .done (Response.bodyOf response)

end RemoteAttestation
