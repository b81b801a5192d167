import RemoteAttestation.CommandLine.Run
import RemoteAttestation.Device.PlainFile

/-!
# The Program

Carries out the interactions of the commands on a real system: files are read, a device is a
file that is opened for reading and writing, and random octets come from the system. Notices go
to the standard error stream, warnings always and the rest when `RUST_LOG` names their level or
one below.
-/

namespace RemoteAttestation.Program

/-- The wording of a system's error. -/
def reason : IO.Error → String
  | .noFileOrDirectory .. => FileFault.notFound.message
  | .inappropriateType .. => FileFault.isDirectory.message
  | .permissionDenied .. => "Permission denied (os error 13)"
  | e => toString e

/-- The octets of a file. -/
def fetch (path : String) : IO (Except FileFault Bytes) := do
  try
    return .ok (← IO.FS.readBinFile path).data.toList
  catch e => return .error (.system (reason e))

/-- Reads from a device until `n` octets are there or none come any more. -/
partial def readFully (handle : IO.FS.Handle) (n : Nat) (got : Bytes) :
    IO (Except ChannelFault Bytes) := do
  if n ≤ got.length then return .ok got
  let more ← handle.read (USize.ofNat (n - got.length))
  if more.isEmpty then return .error .endOfData
  readFully handle n (got ++ more.data.toList)

/-- The channel of an opened device. -/
def channel (handle : IO.FS.Handle) : Channel IO where
  write b := do
    try
      handle.write ⟨b.toArray⟩
      handle.flush
      return .ok ()
    catch e => return .error (.system (reason e))
  read n := do
    try readFully handle n [] catch e => return .error (.system (reason e))

/-- The least urgent level that the operator wants to hear of. -/
def leastLevel : Option String → NoticeLevel
  | some "debug" => .debug
  | some "info" => .info
  | _ => .warn

/-- Tells the operator something that is urgent enough. -/
def report (least : NoticeLevel) (notice : Notice) : IO Unit := do
  if least.rank ≤ notice.level.rank then
    (← IO.getStderr).putStrLn notice.line

/-- Opens a device. -/
def openDevice (path : String) : IO (Except FileFault IO.FS.Handle) := do
  try
    return .ok (← IO.FS.Handle.mk path .readWrite)
  catch e => return .error (.system (reason e))

/-- Carries out an interaction. -/
def perform {α : Type} (least : NoticeLevel) (device : Option IO.FS.Handle) :
    Interaction α → IO α
  | .done result => return result
  | .tell notice next => do
    report least notice
    perform least device next
  | .fetch path next => do
    perform least device (next (← fetch path))
  | .openDevice path next => do
    match ← openDevice path with
    | .ok handle => perform least (some handle) (next (.ok ()))
    | .error fault => perform least device (next (.error fault))
  | .send command next => do
    match device with
    | some handle => perform least device (next (← (channel handle).exchange command))
    | none => perform least device (next (.error (.commandNotWritten .endOfData)))
  | .draw count next => do
    perform least device (next (← IO.getRandomBytes (USize.ofNat count)).data.toList)

end RemoteAttestation.Program

/-- Runs the command that the arguments ask for. -/
def main (arguments : List String) : IO UInt32 := do
  let least := RemoteAttestation.Program.leastLevel (← IO.getEnv "RUST_LOG")
  let outcome ← RemoteAttestation.Program.perform least none (RemoteAttestation.run arguments)
  let output ← IO.getStdout
  output.putStr outcome.output
  output.flush
  if let some complaint := outcome.complaint then
    (← IO.getStderr).putStrLn complaint
  return UInt32.ofNat outcome.status
