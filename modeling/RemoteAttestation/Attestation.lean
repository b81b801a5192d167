import RemoteAttestation.Json.Basic
import RemoteAttestation.Notice
import RemoteAttestation.Pcr.SelectionList

/-!
# Attestations

An attestation is what a TPM signs. It begins with a mark that the TPM never puts in front of
data from outside, and then says what kind of statement it is; only quotes are read here. The
whole string must be used up, so a string that was cut or lengthened is refused.

## Main definitions

* `Attestation`: the fields of a quote.
* `Attestation.read`, `Attestation.decode`, `Attestation.write`: from and to the wire form.
* `Attestation.report`: the fields for an operator, as JSON.
-/

namespace RemoteAttestation

/-- The TPM's clock when it made a statement. -/
structure ClockInfo where
  /-- The time in milliseconds. -/
  clock : UInt64
  /-- How often the TPM was reset. -/
  resetCount : UInt32
  /-- How often the TPM was restarted. -/
  restartCount : UInt32
  /-- Whether the clock was never higher. -/
  safe : Bool
  deriving Repr, DecidableEq

/-- A quote, as a TPM states it. -/
structure Attestation where
  /-- The mark of statements that a TPM made itself. -/
  magic : UInt32
  /-- The kind of statement. -/
  kind : UInt16
  /-- The name of the key that signs. -/
  qualifiedSigner : Bytes
  /-- The nonce of the request. -/
  extraData : Bytes
  /-- The clock. -/
  clockInfo : ClockInfo
  /-- The version of the TPM's firmware. -/
  firmwareVersion : UInt64
  /-- The PCRs that the quote covers, bank by bank. -/
  selections : List Selection
  /-- The digest of their values. -/
  pcrDigest : Bytes
  deriving DecidableEq

/-- The fields that hold strings. -/
inductive AttestationField where
  | qualifiedSigner
  | extraData
  | pcrDigest
  deriving Repr, DecidableEq

/-- The name of a field. -/
def AttestationField.name : AttestationField → String
  | qualifiedSigner => "qualifiedSigner"
  | extraData => "extraData"
  | pcrDigest => "pcrDigest"

/-- Why a string is not an attestation. -/
inductive AttestationFault where
  /-- The string ends where an integer should stand. -/
  | underflow (fault : Underflow)
  /-- The string ends before a field that holds a string does. -/
  | fieldUnderflow (field : AttestationField) (fault : Underflow)
  /-- The mark is not that of a TPM. -/
  | wrongMagic (magic : UInt32)
  /-- The statement is not a quote. -/
  | wrongKind (kind : UInt16)
  /-- The truth value of the clock is neither zero nor one. -/
  | unsafeFlag (octet : UInt8)
  /-- The list of selections cannot be read. -/
  | selectionList (fault : SelectionListFault)
  /-- Something follows the last field. -/
  | trailing (count : Nat)
  deriving Repr, DecidableEq

/-- The wording of a fault. -/
def AttestationFault.message : AttestationFault → String
  | underflow fault => fault.message
  | fieldUnderflow field fault => s!"{field.name}: {fault.message}"
  | wrongMagic magic =>
    s!"magic 0x{Hex.encodeUpper (Wire.u32 magic)} is not TPM_GENERATED_VALUE"
  | wrongKind kind => s!"type 0x{Hex.encodeUpper (Wire.u16 kind)} is not TPM_ST_ATTEST_QUOTE"
  | unsafeFlag octet => s!"clockInfo.safe is {octet.toNat}, expected YES or NO"
  | selectionList fault => s!"pcrSelect: {fault.message}"
  | trailing count => s!"{count} trailing bytes after pcrDigest"

namespace Attestation

/-- The mark of statements that a TPM made itself. -/
def generatedValue : UInt32 := 0xFF544347

/-- The kind of statement that a quote is. -/
def quoteKind : UInt16 := 0x8018

/-! ### Reading -/

/-- Reads a truth value. -/
def readFlag : Reader AttestationFault Bool := do
  match ← Reader.u8.orFail .underflow with
  | 0 => return false
  | 1 => return true
  | octet => throw (.unsafeFlag octet)

/-- Reads the clock. -/
def readClockInfo : Reader AttestationFault ClockInfo := do
  let clock ← Reader.u64.orFail .underflow
  let resetCount ← Reader.u32.orFail .underflow
  let restartCount ← Reader.u32.orFail .underflow
  let safe ← readFlag
  return ⟨clock, resetCount, restartCount, safe⟩

/-- Reads a field that holds a string. -/
def readField (field : AttestationField) : Reader AttestationFault Bytes :=
  Reader.sized.orFail (.fieldUnderflow field)

/-- Reads an **attestation**, which must be all there is to read. -/
def read : Reader AttestationFault Attestation := do
  let magic ← Reader.u32.orFail .underflow
  if magic ≠ generatedValue then throw (.wrongMagic magic)
  let kind ← Reader.u16.orFail .underflow
  if kind ≠ quoteKind then throw (.wrongKind kind)
  let qualifiedSigner ← readField .qualifiedSigner
  let extraData ← readField .extraData
  let clockInfo ← readClockInfo
  let firmwareVersion ← Reader.u64.orFail .underflow
  let selections ← SelectionList.read.orFail .selectionList
  let pcrDigest ← readField .pcrDigest
  let trailing ← Reader.remaining
  if trailing ≠ 0 then throw (.trailing trailing)
  return { magic, kind, qualifiedSigner, extraData, clockInfo, firmwareVersion, selections,
           pcrDigest }

/-- The **attestation** that a string is. -/
def decode (raw : Bytes) : Except AttestationFault Attestation :=
  read.parse raw

/-! ### Writing -/

/-- The wire form of a truth value. -/
def writeFlag (b : Bool) : Bytes :=
  Wire.u8 (if b then 1 else 0)

/-- The wire form of the clock. -/
def writeClockInfo (c : ClockInfo) : Bytes :=
  Wire.u64 c.clock ++ Wire.u32 c.resetCount ++ Wire.u32 c.restartCount ++ writeFlag c.safe

/-- The **wire form** of an attestation. -/
def write (a : Attestation) : Bytes :=
  Wire.u32 a.magic ++ Wire.u16 a.kind ++ Wire.sized a.qualifiedSigner ++ Wire.sized a.extraData ++
    writeClockInfo a.clockInfo ++ Wire.u64 a.firmwareVersion ++
    SelectionList.write a.selections ++ Wire.sized a.pcrDigest

/-! ### Reports -/

/-- A selection for an operator. -/
def selectionReport (s : Selection) : Json :=
  .object [
    ("hash", .string s.bank.name),
    ("pcrs", .array (s.indices.map fun index => .number index.toNat))]

/-- The clock for an operator. -/
def clockReport (c : ClockInfo) : Json :=
  .object [
    ("clock", .number c.clock.toNat),
    ("resetCount", .number c.resetCount.toNat),
    ("restartCount", .number c.restartCount.toNat),
    ("safe", .bool c.safe)]

/-- The **fields** for an operator. Marks, versions and strings are in hexadecimal. -/
def report (a : Attestation) : Json :=
  .object [
    ("magic", .string (Hex.encode (Wire.u32 a.magic))),
    ("type", .string (Hex.encode (Wire.u16 a.kind))),
    ("qualifiedSigner", .string (Hex.encode a.qualifiedSigner)),
    ("extraData", .string (Hex.encode a.extraData)),
    ("clockInfo", clockReport a.clockInfo),
    ("firmwareVersion", .string (Hex.encode (Wire.u64 a.firmwareVersion))),
    ("attested", .object [
      ("quote", .object [
        ("pcrSelect", .array (a.selections.map selectionReport)),
        ("pcrDigest", .string (Hex.encode a.pcrDigest))])])]

/-- What the operator is told of a decoded attestation. -/
def notice (a : Attestation) : Notice :=
  ⟨.debug, s!"Decoded quote: {a.selections.length} bank(s), digest {Hex.encode a.pcrDigest}, " ++
    s!"extraData {Hex.encode a.extraData}, reset {a.clockInfo.resetCount.toNat} " ++
    s!"restart {a.clockInfo.restartCount.toNat}"⟩

end Attestation

end RemoteAttestation
