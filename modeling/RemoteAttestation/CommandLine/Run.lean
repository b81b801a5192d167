import RemoteAttestation.CommandLine.Interaction
import RemoteAttestation.Key.Load

/-!
# The Commands

The four commands of the program. `quote` asks a TPM for a quote and prints it; `verify`
appraises a printed quote and fails unless every check succeeds; `pcrs` prints the values that
a verifier expects; `decode` prints the fields of an attestation. Everything that an operator
wrote is checked before a device is opened.

## Main definitions

* `Command.settings`: the settings of a command, from its file and its flags.
* `Command.quote`, `Command.verify`, `Command.pcrs`, `Command.decode`: the commands.
* `run`: the command that some arguments ask for.
-/

namespace RemoteAttestation

namespace Command

/-! ### Settings -/

/-- The settings of a file. -/
def settingsFile (path : String) : Command Settings := do
  ofExcept (.settings path) (Settings.ofText (← readText .settings path))

/-- The **settings** of a command: those of its file, or the defaults, with what its flags say
in their place. -/
def settings (flags : Flags) : Command Settings := do
  let base ← match flags.get? "--config" with
    | some path => settingsFile path
    | none => pure {}
  let device := (flags.get? "--device").getD base.device
  let keyHandle ← match flags.get? "--handle" with
    | some text => ofExcept .handle (parseHandle text)
    | none => pure base.keyHandle
  let pcrs ← match flags.all "--pcrs" with
    | [] => pure base.pcrs
    | texts => ofExcept .pcrs (texts.mapM PcrBank.parse)
  let scheme ← match flags.get? "--scheme" with
    | some text => ofExcept .scheme (Scheme.parse text)
    | none => pure base.scheme
  let settings : Settings :=
    { device, keyHandle, pcrs, scheme, nonceSize := base.nonceSize }
  tell [settings.notice]
  return settings

/-! ### Quotes -/

/-- A fresh nonce of so many octets. -/
def freshNonce (size : Nat) : Command Bytes :=
  match nonceFault? size with
  | some fault => throw (.request (.nonce fault))
  | none => ExceptT.lift (.draw size .done)

/-- The nonce of a request: the one that is given, or a fresh one. -/
def nonce (flags : Flags) (size : Nat) : Command Bytes :=
  match flags.get? "--nonce" with
  | some text => ofExcept (.notHex "--nonce") (Hex.decode text)
  | none => freshNonce size

/-- The request that the settings describe. -/
def request (settings : Settings) (nonce : Bytes) : Command QuoteRequest := do
  let selections ← ofExcept (fun fault => .request (.selection fault)) settings.selections
  ofExcept .request (QuoteRequest.build settings.keyHandle nonce selections settings.scheme)

/-- What the operator is told of a quote that a TPM gave. -/
def quoteNotice (quote : Quote) : Notice :=
  ⟨.info, s!"Quote: {quote.attestation.length} byte attestation, " ++
    s!"{quote.signature.length} byte signature"⟩

/-- Asks a TPM for a **quote** and prints it. -/
def quote (flags : Flags) : Command Outcome := do
  let settings ← settings flags
  let nonce ← nonce flags settings.nonceSize
  let request ← request settings nonce
  openDevice settings.device
  let quote ← ofExcept .quote (← session request.session)
  tell [quoteNotice quote]
  let attestation ← ofExcept .undecodable (Attestation.decode quote.attestation)
  tell [attestation.notice]
  return ⟨some ((QuoteFile.ofQuote nonce quote).json attestation).pretty, none⟩

/-! ### Verification -/

/-- What the operator is told of a file with another nonce than the expected one. -/
def nonceNotices (file : QuoteFile) (expected : String) : List Notice :=
  if file.nonce = String.ofList (expected.toList.map Char.toLower) then []
  else [⟨.debug, s!"Quote file records nonce {file.nonce}, expecting {expected}"⟩]

/-- What the operator is told of what a quote is judged by. -/
def verifierNotice (key : AttestationKey) (expected : PcrValues) : Notice :=
  ⟨.info, s!"Verifying with {key.algorithmName} AK, {expected.size} expected PCR value(s)"⟩

/-- **Verifies** a printed quote. The verdict is printed whatever it is, and decides whether
the command fails. -/
def verify (flags : Flags) : Command Outcome := do
  let quotePath ← ofExcept .flag (flags.require "--quote")
  let keyPath ← ofExcept .flag (flags.require "--ak")
  let pcrPath ← ofExcept .flag (flags.require "--pcr-values")
  let nonceText ← ofExcept .flag (flags.require "--nonce")
  let quoteText ← readText .quote quotePath
  let some file := QuoteFile.ofText? quoteText | throw (.quoteFile quotePath)
  let key ← ofExcept (.key keyPath) (AttestationKey.load (← readBytes .key keyPath))
  let expected ← ofExcept .pcrFile (PcrValues.ofText (← readText .pcrValues pcrPath))
  let nonce ← ofExcept (.notHex "--nonce") (Hex.decode nonceText)
  tell (nonceNotices file nonceText)
  let raw ← ofExcept (.notHex "attest") (Hex.decode file.attest)
  let rawSignature ← ofExcept (.notHex "signature") (Hex.decode file.signature)
  let verdict := RemoteAttestation.verify raw rawSignature nonce expected key
  tell (verifierNotice key expected :: verdict.notices)
  let verdict ← ofExcept .verify verdict.result
  let fault := match verdict.judgement with
    | .ok () => none
    | .error fault => some (.verify fault)
  return ⟨some verdict.report.pretty, fault⟩

/-! ### PCR values -/

/-- Reads the values of some selections and adds them to `values`. -/
def readSelections (values : PcrValues) : List Selection → Command PcrValues
  | [] => return values
  | s :: rest => do
    let read ← ofExcept (.pcrRead s.bank) (← session s.readSession)
    readSelections (values.insertAll read.toList) rest

/-- Reads the **values** of PCRs from a TPM and prints them. -/
def pcrs (flags : Flags) : Command Outcome := do
  let settings ← settings flags
  let selections ← ofExcept (fun fault => .request (.selection fault)) settings.selections
  openDevice settings.device
  let values ← readSelections .empty selections
  return ⟨some values.file, none⟩

/-! ### Attestations -/

/-- Prints the **fields** of an attestation. -/
def decode (flags : Flags) : Command Outcome := do
  let text ← ofExcept .flag (flags.require "--attest")
  let raw ← ofExcept (.notHex "--attest") (Hex.decode text)
  let attestation ← ofExcept (fun fault => .verify (.malformedAttestation fault))
    (Attestation.decode raw)
  tell [attestation.notice]
  return ⟨some attestation.report.pretty, none⟩

/-! ### Dispatch -/

/-- The flags of the commands that take settings. -/
def settingsFlags : List String :=
  ["--config", "--device", "--handle", "--pcrs", "--scheme", "--nonce"]

/-- The flags of `verify`. -/
def verifyFlags : List String :=
  ["--quote", "--ak", "--pcr-values", "--nonce"]

/-- The flags of `pcrs`. -/
def pcrsFlags : List String :=
  ["--config", "--device", "--pcrs"]

/-- The flags of `decode`. -/
def decodeFlags : List String :=
  ["--attest"]

/-- A command with the flags that its arguments are. -/
def withFlags (known arguments : List String) (command : Flags → Command Outcome) :
    Command Outcome := do
  command (← ofExcept .flag (Flags.parse known arguments))

/-- The command that some arguments ask for. -/
def ofArguments : List String → Command Outcome
  | "quote" :: rest => withFlags settingsFlags rest quote
  | "verify" :: rest => withFlags verifyFlags rest verify
  | "pcrs" :: rest => withFlags pcrsFlags rest pcrs
  | "decode" :: rest => withFlags decodeFlags rest decode
  | _ => throw .usage

end Command

/-- **Runs** the command that some arguments ask for. -/
def run (arguments : List String) : Interaction Outcome := do
  match ← (Command.ofArguments arguments).run with
  | .ok outcome => return outcome
  | .error fault => return ⟨none, some fault⟩

end RemoteAttestation
