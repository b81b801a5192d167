import RemoteAttestation.Device.Response

/-!
# Reading PCRs

A TPM returns only a few values at a time, and it chooses which. It is asked again for those
that are still missing until none is. Each round must bring a value that was missing, so there
are at most as many rounds as selected indices, whatever the TPM answers.

A response body holds a counter, the list of selections whose values follow, the number of
values, and the values, each behind its size. Entries of other banks are not looked at.

## Main definitions

* `PcrReadFault`: why PCRs cannot be read.
* `PcrRound.read`: one round of values.
* `Selection.readSession`: the session that reads the values of a selection.
-/

namespace RemoteAttestation

/-- Why the values of a selection cannot be read. -/
inductive PcrReadFault where
  /-- There is no response body. -/
  | response (fault : ResponseFault)
  /-- The body is cut short. -/
  | underflow (fault : Underflow)
  /-- The list of selections in the body cannot be read. -/
  | selectionList (fault : SelectionListFault)
  /-- The response names no index of the bank. -/
  | noValues (bank : Algorithm) (missing : List UInt8)
  /-- The response has another number of values than of indices. -/
  | countMismatch (count : UInt32) (indices : Nat)
  /-- The response holds none of the missing values. -/
  | noProgress (missing : List UInt8)
  deriving Repr, DecidableEq

/-- The wording of a fault. -/
def PcrReadFault.message : PcrReadFault → String
  | response fault => fault.message
  | underflow fault => fault.message
  | selectionList fault => fault.message
  | noValues bank missing =>
    s!"TPM returned no {bank.name} PCR values for {Quoted.indices missing}"
  | countMismatch count indices =>
    s!"PCR_Read returned {count.toNat} digests for {indices} selected PCRs"
  | noProgress missing => s!"PCR_Read made no progress, still missing {Quoted.indices missing}"

/-- The **command** that asks a TPM for the values of a selection. -/
def Selection.readCommand (s : Selection) : Bytes :=
  TpmCommand.frame TpmCommand.plainTag TpmCommand.pcrReadCode (SelectionList.write [s])

/-! ### Rounds -/

/-- What one response says about a bank: the values it holds, and what is wrong with it, if
anything is. Values in front of a fault count as received. -/
structure PcrRound where
  /-- The values with their indices, in the order of the response. -/
  received : List (UInt8 × Bytes)
  /-- What is wrong with the response. -/
  fault : Option PcrReadFault
  deriving Repr, DecidableEq

namespace PcrRound

/-- Reads the values of some indices, one after the other. -/
def readValues : (indices : List UInt8) → Cursor → PcrRound
  | [], _ => ⟨[], none⟩
  | index :: rest, c =>
    match Reader.sized c with
    | .error fault _ => ⟨[], some (.underflow fault)⟩
    | .ok value c =>
      let round := readValues rest c
      ⟨(index, value) :: round.received, round.fault⟩

/-- The indices of a bank that the entries of a list name. An index may be named twice. -/
def namedIndices (bank : Algorithm) (selections : List Selection) : List UInt8 :=
  (selections.filter (·.bank == bank)).flatMap Selection.indices

/-- Reads the part of a body before the values, and gives the indices whose values follow. -/
def readIndices (bank : Algorithm) (missing : List UInt8) : Reader PcrReadFault (List UInt8) := do
  let _ ← Reader.u32.orFail .underflow
  let selections ← SelectionList.read.orFail .selectionList
  let count ← Reader.u32.orFail .underflow
  let indices := namedIndices bank selections
  if indices.isEmpty then throw (.noValues bank missing)
  if indices.length ≠ count.toNat then throw (.countMismatch count indices.length)
  return indices

/-- Reads one **round** of values from a body. -/
def read (bank : Algorithm) (missing : List UInt8) (body : Bytes) : PcrRound :=
  match readIndices bank missing (Cursor.start body) with
  | .error fault _ => ⟨[], some fault⟩
  | .ok indices c => readValues indices c

/-- The round that the response to a command makes. -/
def ofBody (bank : Algorithm) (missing : List UInt8) : Except ResponseFault Bytes → PcrRound
  | .error fault => ⟨[], some (.response fault)⟩
  | .ok body => read bank missing body

/-- The slots and values that a round brings. -/
def entries (bank : Algorithm) (round : PcrRound) : List (Slot × Bytes) :=
  round.received.map fun (index, value) => (⟨bank, index⟩, value)

/-- Those of `missing` that a round does not bring. -/
def stillMissing (missing : List UInt8) (round : PcrRound) : List UInt8 :=
  missing.filter fun index => !(round.received.map Prod.fst).contains index

end PcrRound

/-! ### Sessions -/

/-- The session that reads the values of the indices in `missing` and adds them to `values`. -/
def readMissing (bank : Algorithm) (missing : List UInt8) (values : PcrValues) :
    Session (Except PcrReadFault PcrValues) :=
  if missing.isEmpty then .done (.ok values)
  else .send (Selection.ofIndices bank missing).readCommand fun response =>
    let round := PcrRound.ofBody bank missing (Response.bodyOf response)
    let entries := round.entries bank
    Session.tellAll (entries.map fun (slot, value) => .pcrReceived slot value) <|
      match round.fault with
      | some fault => .done (.error fault)
      | none =>
        if (round.stillMissing missing).length < missing.length then
          readMissing bank (round.stillMissing missing) (values.insertAll entries)
        else .done (.error (.noProgress missing))
  termination_by missing.length

/-- The **session** that reads the values of a selection. -/
def Selection.readSession (s : Selection) : Session (Except PcrReadFault PcrValues) :=
  readMissing s.bank s.indices .empty

end RemoteAttestation
