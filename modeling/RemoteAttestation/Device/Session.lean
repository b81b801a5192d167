import RemoteAttestation.Notice
import RemoteAttestation.Pcr.Values
import RemoteAttestation.Quote.Request

/-!
# Sessions with a TPM

What this library does with a TPM is to send commands and to go on according to the responses.
A `Session` is that behaviour as data: it is done, it has something to tell the operator, or it
sends a command and continues with the response or with the reason why there is none. A
session knows nothing of what carries the commands, so a statement about a session holds for
every transport; running it is left to whoever has one.

## Main definitions

* `ChannelFault`, `TransportFault`: why a command has no response.
* `Session`: the behaviours, with `Session.bind` to put one after another.
* `Session.run`: a session carried out in a monad that can send commands.
-/

namespace RemoteAttestation

/-- Why octets cannot be moved to or from a device. -/
inductive ChannelFault where
  /-- The data end too early. -/
  | endOfData
  /-- The operating system gives this reason. -/
  | system (reason : String)
  deriving Repr, DecidableEq

/-- The wording of a fault. -/
def ChannelFault.message : ChannelFault → String
  | endOfData => "failed to fill whole buffer"
  | system reason => reason

/-- Why a command has no response. -/
inductive TransportFault where
  /-- The transport gives this reason. -/
  | reported (reason : String)
  /-- The command could not be written. -/
  | commandNotWritten (fault : ChannelFault)
  /-- The header of the response could not be read. -/
  | headerNotRead (fault : ChannelFault)
  /-- The header states a size that is less than its own. -/
  | sizeTooSmall (size : UInt32)
  /-- The rest of the response could not be read. -/
  | bodyNotRead (fault : ChannelFault)
  deriving Repr, DecidableEq

/-- The wording of a fault. -/
def TransportFault.message : TransportFault → String
  | reported reason => reason
  | commandNotWritten fault => s!"Failed to write TPM command: {fault.message}"
  | headerNotRead fault => s!"Failed to read TPM response header: {fault.message}"
  | sizeTooSmall size => s!"Invalid TPM response size: {size.toNat}"
  | bodyNotRead fault => s!"Failed to read TPM response body: {fault.message}"

/-- What a session tells the operator. -/
inductive DeviceEvent where
  /-- A quote is requested. -/
  | quoteRequested (request : QuoteRequest)
  /-- A quote came back, with parts of these sizes. -/
  | quoteReceived (attestation signature : Nat)
  /-- The value of a PCR came back. -/
  | pcrReceived (slot : Slot) (value : Bytes)
  deriving DecidableEq

/-- An event as a line for the operator. -/
def DeviceEvent.notice : DeviceEvent → Notice
  | quoteRequested request =>
    ⟨.debug, s!"TPM2_Quote: handle 0x{Hex.encodeUpper (Wire.u32 request.keyHandle)}, " ++
      s!"{request.selections.length} bank(s), scheme {request.scheme.noticeForm}, " ++
      s!"nonce {Hex.encode request.nonce}"⟩
  | quoteReceived attestation signature =>
    ⟨.debug, s!"TPM2_Quote returned {attestation} attestation bytes, {signature} signature bytes"⟩
  | pcrReceived slot value => ⟨.debug, s!"PCR {slot.name} = {Hex.encode value}"⟩

/-- A **session**, which ends with an `α`. -/
inductive Session (α : Type) where
  /-- The session is over. -/
  | done (result : α)
  /-- The operator is told something. -/
  | tell (event : DeviceEvent) (next : Session α)
  /-- A command is sent; the response, or the reason why there is none, decides what
  follows. -/
  | send (command : Bytes) (next : Except TransportFault Bytes → Session α)

namespace Session

variable {α β : Type}

/-- One session and then another that depends on the result of the first. -/
def bind : Session α → (α → Session β) → Session β
  | done result, f => f result
  | tell event next, f => tell event (next.bind f)
  | send command next, f => send command fun response => (next response).bind f

instance : Monad Session where
  pure := done
  bind := bind

/-- The session that tells the operator some things in order, and then goes on. -/
def tellAll (events : List DeviceEvent) (next : Session α) : Session α :=
  events.foldr tell next

/-- Carries out a session with a way to send commands and a way to tell the operator. -/
def run {m : Type → Type} [Monad m] (transmit : Bytes → m (Except TransportFault Bytes))
    (report : DeviceEvent → m Unit) : Session α → m α
  | done result => return result
  | tell event next => do
    report event
    next.run transmit report
  | send command next => do
    let response ← transmit command
    (next response).run transmit report

end Session

end RemoteAttestation
