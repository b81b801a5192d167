import RemoteAttestation.Device.Response

/-!
# Devices as Files

A TPM device is a file: a command is written to it and the response is read back, the header
first, because only the header tells how much follows. A `Channel` has just these two
operations. The channel of a plain file keeps one position for both: writing overwrites what is
there and makes the file longer only at its end, and a read that comes up short has used up
what was left.

## Main definitions

* `Channel`, `Channel.exchange`: writing and reading, and the exchange made of them.
* `PlainFile`: a file with a position, and `PlainFile.channel`.
-/

namespace RemoteAttestation

/-- A way to write octets and to read a given number of them, in a monad. -/
structure Channel (m : Type → Type) where
  /-- Writes all of the octets. -/
  write : Bytes → m (Except ChannelFault Unit)
  /-- Reads exactly so many octets. -/
  read : Nat → m (Except ChannelFault Bytes)

/-- Sends a **command** over a channel and reads the response, as much as its header states. -/
def Channel.exchange {m : Type → Type} [Monad m] (channel : Channel m) (command : Bytes) :
    m (Except TransportFault Bytes) := do
  match ← channel.write command with
  | .error fault => return .error (.commandNotWritten fault)
  | .ok () =>
    match ← channel.read TpmCommand.headerSize with
    | .error fault => return .error (.headerNotRead fault)
    | .ok header =>
      let size := Response.statedSize header
      if size.toNat < TpmCommand.headerSize then return .error (.sizeTooSmall size)
      match ← channel.read (size.toNat - TpmCommand.headerSize) with
      | .error fault => return .error (.bodyNotRead fault)
      | .ok body => return .ok (header ++ body)

/-- A plain file that is open for reading and writing. -/
structure PlainFile where
  /-- The octets of the file. -/
  content : Bytes
  /-- The position of the next read or write. -/
  position : Nat
  deriving Repr, DecidableEq

namespace PlainFile

/-- A file as it is when it has just been opened. -/
def opened (content : Bytes) : PlainFile :=
  ⟨content, 0⟩

/-- The octets in front of the position. Behind the end of the file they are zeros. -/
def front (f : PlainFile) : Bytes :=
  (f.content.take f.position).rightpad f.position 0

/-- The file after octets were written at its position. Writing nothing changes nothing. -/
def write (f : PlainFile) (b : Bytes) : PlainFile :=
  if b.isEmpty then f
  else
    { content := f.front ++ b ++ f.content.drop (f.position + b.length)
      position := f.position + b.length }

/-- Reads `n` octets at the position. When fewer are left, the position moves to the end. -/
def read (f : PlainFile) (n : Nat) : Except ChannelFault Bytes × PlainFile :=
  let rest := f.content.drop f.position
  if n ≤ rest.length then (.ok (rest.take n), { f with position := f.position + n })
  else (.error .endOfData, { f with position := f.position + rest.length })

/-- The **channel** of a plain file. -/
def channel : Channel (StateM PlainFile) where
  write b := do
    modify (·.write b)
    return .ok ()
  read n := modifyGet (·.read n)

end PlainFile

end RemoteAttestation
