import RemoteAttestation.CommandLine.Flags
import RemoteAttestation.CommandLine.PcrFile
import RemoteAttestation.CommandLine.QuoteFile
import RemoteAttestation.CommandLine.Settings
import RemoteAttestation.Appraisal.Basic
import RemoteAttestation.Device.PcrReading

/-!
# Interactions

What a command does to the world is to fetch files, to open a device and send commands to it,
and to draw random octets. An `Interaction` is that behaviour as data, like a session but with
more to ask for: each request to the world comes with what follows for each answer. Everything
else that a command does is a function of the answers.

## Main definitions

* `FileFault`, `CommandFault`: what can go wrong.
* `Interaction`, `Interaction.bind`: the behaviours, and one after another.
* `Interaction.ofSession`: a session as an interaction, over the device that was opened.
* `Command`: interactions that may end with a fault, and `Outcome`, what a command leaves behind.
-/

namespace RemoteAttestation

/-! ### Faults -/

/-- Why a file cannot be read or opened. -/
inductive FileFault where
  /-- There is no file of that name. -/
  | notFound
  /-- The name is that of a directory. -/
  | isDirectory
  /-- A part of the path before the last is a file. -/
  | notDirectory
  /-- A part of the path, or the whole of it, is longer than names can be. -/
  | nameTooLong
  /-- The path holds a character that ends names. -/
  | nulInName
  /-- The system gives this reason. -/
  | system (reason : String)
  deriving Repr, DecidableEq

/-- The wording of a fault. -/
def FileFault.message : FileFault → String
  | notFound => "No such file or directory (os error 2)"
  | isDirectory => "Is a directory (os error 21)"
  | notDirectory => "Not a directory (os error 20)"
  | nameTooLong => "File name too long (os error 36)"
  | nulInName => "file name contained an unexpected NUL byte"
  | system reason => reason

/-- A device that cannot be opened. -/
structure DeviceFault where
  /-- The path of the device. -/
  path : String
  /-- The reason. -/
  fault : FileFault
  deriving Repr, DecidableEq

/-- The wording of a fault. -/
def DeviceFault.message (fault : DeviceFault) : String :=
  s!"Failed to open TPM device at {fault.path}: {fault.fault.message}"

/-- Why a file cannot be read as text. -/
inductive TextFault where
  /-- The file cannot be read. -/
  | file (fault : FileFault)
  /-- The file is not UTF-8. -/
  | notText
  deriving Repr, DecidableEq

/-- The wording of a fault. -/
def TextFault.message : TextFault → String
  | file fault => fault.message
  | notText => "stream did not contain valid UTF-8"

/-- What a command reads a file for. -/
inductive FileRole where
  | settings
  | quote
  | key
  | pcrValues
  deriving Repr, DecidableEq

/-- The name of a role. -/
def FileRole.name : FileRole → String
  | settings => "config"
  | quote => "quote"
  | key => "AK"
  | pcrValues => "PCR values"

/-- Why a command fails. -/
inductive CommandFault where
  /-- There is no command of that name. -/
  | usage
  /-- The flags are wrong. -/
  | flag (fault : FlagFault)
  /-- A file cannot be read. -/
  | unreadable (role : FileRole) (path : String) (fault : TextFault)
  /-- The settings file is not one. -/
  | settings (path : String) (fault : SettingsFault)
  /-- The handle on the command line is not one. -/
  | handle (fault : HandleFault)
  /-- The PCRs on the command line are not a list. -/
  | pcrs (fault : PcrBankFault)
  /-- The scheme on the command line is not one. -/
  | scheme (fault : SchemeFault)
  /-- A text is not hexadecimal. -/
  | notHex (what : String) (fault : HexFault)
  /-- The request cannot be made. -/
  | request (fault : RequestFault)
  /-- The device cannot be opened. -/
  | device (fault : DeviceFault)
  /-- The TPM gives no quote. -/
  | quote (failure : QuoteFailure)
  /-- The TPM's attestation cannot be decoded. -/
  | undecodable (fault : AttestationFault)
  /-- The TPM does not give the values of a bank. -/
  | pcrRead (bank : Algorithm) (fault : PcrReadFault)
  /-- The quote file is not one. -/
  | quoteFile (path : String)
  /-- The key file holds no key. -/
  | key (path : String) (fault : KeyFault)
  /-- The file of PCR values is not one. -/
  | pcrFile (fault : PcrFileFault)
  /-- The quote is rejected, or cannot be decoded. -/
  | verify (fault : VerifyFault)
  deriving Repr, DecidableEq

/-- The wording of a fault. The failure of a quote is told once by itself and once more with
its cause. -/
def CommandFault.message : CommandFault → String
  | usage => RemoteAttestation.usage
  | flag fault => fault.message
  | unreadable role path fault => s!"Failed to read {role.name} {path}: {fault.message}"
  | settings path fault =>
    match fault.message? with
    | some message => s!"Invalid config {path}: {message}"
    | none => s!"Invalid config {path}"
  | handle fault => fault.message
  | pcrs fault => fault.message
  | scheme fault => fault.message
  | notHex what fault => s!"{what} is not hex: {fault.message}"
  | request fault => fault.message
  | device fault => s!"Failed to open TPM at {fault.path}: {fault.message}"
  | quote failure => s!"{failure.message}: {failure.chain}"
  | undecodable fault =>
    s!"TPM returned an undecodable attestation: {(VerifyFault.malformedAttestation fault).message}"
  | pcrRead bank fault => s!"Failed to read {bank.name} PCRs: {fault.message}"
  | quoteFile path => s!"Invalid quote file {path}"
  | key path fault => s!"Failed to load AK {path}: {(VerifyFault.invalidKey fault).message}"
  | pcrFile fault => fault.message
  | verify fault => fault.message

/-! ### Interactions -/

/-- An **interaction**, which ends with an `α`. -/
inductive Interaction (α : Type) where
  /-- The interaction is over. -/
  | done (result : α)
  /-- The operator is told something. -/
  | tell (notice : Notice) (next : Interaction α)
  /-- The octets of a file are fetched. -/
  | fetch (path : String) (next : Except FileFault Bytes → Interaction α)
  /-- A device is opened, to which all further commands go. -/
  | openDevice (path : String) (next : Except FileFault Unit → Interaction α)
  /-- A command is sent to the device. -/
  | send (command : Bytes) (next : Except TransportFault Bytes → Interaction α)
  /-- Octets are drawn at random. -/
  | draw (count : Nat) (next : Bytes → Interaction α)

namespace Interaction

variable {α β : Type}

/-- One interaction and then another that depends on the result of the first. -/
def bind : Interaction α → (α → Interaction β) → Interaction β
  | done result, f => f result
  | tell notice next, f => tell notice (next.bind f)
  | fetch path next, f => fetch path fun answer => (next answer).bind f
  | openDevice path next, f => openDevice path fun answer => (next answer).bind f
  | send command next, f => send command fun answer => (next answer).bind f
  | draw count next, f => draw count fun answer => (next answer).bind f

instance : Monad Interaction where
  pure := done
  bind := bind

/-- The interaction that carries out a session with the device that was opened. -/
def ofSession : Session α → Interaction α
  | .done result => done result
  | .tell event next => tell event.notice (ofSession next)
  | .send command next => send command fun response => ofSession (next response)

/-- The interaction that tells the operator some things in order. -/
def tellAll (notices : List Notice) : Interaction Unit :=
  notices.foldr tell (done ())

end Interaction

/-- An interaction that may end with a fault. -/
abbrev Command := ExceptT CommandFault Interaction

/-- What a command leaves behind: what it printed, if anything, and its fault, if it failed. A
command may print and still fail. -/
structure Outcome where
  /-- The text that was printed. -/
  printed : Option String
  /-- The fault. -/
  fault : Option CommandFault
  deriving Repr, DecidableEq

namespace Outcome

/-- The status that the program exits with. -/
def status (outcome : Outcome) : Nat :=
  if outcome.fault.isSome then 1 else 0

/-- What the program writes as its output: the printed text on lines of its own. -/
def output (outcome : Outcome) : String :=
  match outcome.printed with
  | some text => text ++ "\n"
  | none => ""

/-- What the program writes about its fault. -/
def complaint (outcome : Outcome) : Option String :=
  outcome.fault.map fun fault => s!"Error: {fault.message}"

end Outcome

namespace Command

/-- The command that ends with a result or a fault. -/
def ofExcept {ε α : Type} (fault : ε → CommandFault) : Except ε α → Command α
  | .ok result => pure result
  | .error e => throw (fault e)

/-- The octets of a file. -/
def readBytes (role : FileRole) (path : String) : Command Bytes := do
  ofExcept (fun fault => .unreadable role path (.file fault))
    (← ExceptT.lift (.fetch path .done))

/-- The text of a file. -/
def readText (role : FileRole) (path : String) : Command String := do
  match (← readBytes role path).toText? with
  | some text => return text
  | none => throw (.unreadable role path .notText)

/-- Opens the device that the settings name. -/
def openDevice (path : String) : Command Unit := do
  ofExcept (fun fault => .device ⟨path, fault⟩) (← ExceptT.lift (.openDevice path .done))

/-- Carries out a session with the device. -/
def session {α : Type} (s : Session α) : Command α :=
  ExceptT.lift (Interaction.ofSession s)

/-- Tells the operator some things. -/
def tell (notices : List Notice) : Command Unit :=
  ExceptT.lift (Interaction.tellAll notices)

end Command

end RemoteAttestation
