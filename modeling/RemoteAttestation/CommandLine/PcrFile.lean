import RemoteAttestation.Json.Basic
import RemoteAttestation.Json.Source
import RemoteAttestation.Pcr.Values
import RemoteAttestation.Text.Numeral

/-!
# Files of PCR Values

The values that a verifier expects are kept in a file that `pcrs` prints: a JSON object with a
member for each bank, which is an object with a member for each index, which is a value in
hexadecimal. Banks and indices may be spelled in several ways; the members are taken in the
order of their names, and of two spellings of one thing the later counts.

## Main definitions

* `PcrTable`: banks, indices and values as they are spelled.
* `PcrTable.ofText?`, `PcrTable.json`: from and to JSON.
* `PcrTable.values`, `PcrValues.table`: the values behind a table, and the table of some values.
* `PcrValues.ofText`: the values in a file.
-/

namespace RemoteAttestation

/-- The members of an object whose members are texts, by name. -/
abbrev TextMap := Std.ExtTreeMap String String

/-- Banks, indices and values as they are spelled. -/
abbrev PcrTable := Std.ExtTreeMap String TextMap

/-- Why a file does not hold PCR values. -/
inductive PcrFileFault where
  /-- The file is not JSON, or not of the right form. -/
  | malformed
  /-- A bank has an unknown name. -/
  | unknown (fault : UnknownAlgorithm)
  /-- A bank's algorithm is not a hash. -/
  | notABank (name : String)
  /-- An index of a bank is not a number in range. -/
  | badIndex (name index : String) (fault : NumeralFault)
  /-- A value is not hexadecimal. -/
  | notHex (name : String) (index : UInt8) (fault : HexFault)
  /-- A value has not the size of the bank's digests. -/
  | wrongSize (name : String) (index : UInt8) (size expected : Nat)
  deriving Repr, DecidableEq

/-- The wording of a fault. -/
def PcrFileFault.message : PcrFileFault → String
  | malformed => "Invalid PCR values JSON"
  | unknown fault => fault.message
  | notABank name => s!"{name} is not a PCR bank"
  | badIndex name index fault =>
    s!"Invalid PCR index {Quoted.text index} in bank {name}: {fault.message}"
  | notHex name index fault => s!"PCR {name}:{index.toNat} is not hex: {fault.message}"
  | wrongSize name index size expected =>
    s!"PCR {name}:{index.toNat} is {size} bytes, expected {expected}"

namespace PcrTable

/-! ### JSON -/

/-- The object in a value, with its members read by `read?`. Of members with one name the last
counts. -/
def mapOf? {α : Type} (read? : JsonSource → Option α) (value : JsonSource) :
    Option (Std.ExtTreeMap String α) := do
  let members ← value.members?
  let entries ← members.mapM fun (name, value) => (read? value).map (name, ·)
  return entries.foldl (fun map (name, value) => map.insert name value) ∅

/-- The table in a text. -/
def ofText? (text : String) : Option PcrTable :=
  let document := JsonDocument.ofText text
  if document.ended then mapOf? (mapOf? JsonSource.text?) document.value else none

/-- A table as a value to print, its members in the order of their names. -/
def json (table : PcrTable) : Json :=
  .object (table.toList.map fun (name, bank) =>
    (name, .object (bank.toList.map fun (index, value) => (index, .string value))))

/-! ### Values -/

/-- The value that a bank's member spells. -/
def readEntry (name : String) (bank : Algorithm) (size : Nat) (entry : String × String) :
    Except PcrFileFault (Slot × Bytes) := do
  let index ← (Numeral.read 10 256 entry.1.toList).mapError (.badIndex name entry.1)
  let index := UInt8.ofNat index
  let value ← (Hex.decode entry.2).mapError (.notHex name index)
  if value.length ≠ size then throw (.wrongSize name index value.length size)
  return (⟨bank, index⟩, value)

/-- The values that a table's bank spells, in the order of its members. -/
def readBank (entry : String × TextMap) : Except PcrFileFault (List (Slot × Bytes)) := do
  let bank ← (Algorithm.ofName entry.1).mapError .unknown
  let some size := bank.digestSize? | throw (.notABank entry.1)
  entry.2.toList.mapM (readEntry entry.1 bank size)

/-- The **values** that a table spells. -/
def values (table : PcrTable) : Except PcrFileFault PcrValues := do
  let entries ← table.toList.mapM readBank
  return PcrValues.empty.insertAll entries.flatten

/-- The table with one more value. -/
def insert (table : PcrTable) (slot : Slot) (value : Bytes) : PcrTable :=
  let bank := (Std.ExtTreeMap.get? table slot.bank.name).getD ∅
  Std.ExtTreeMap.insert table slot.bank.name
    (bank.insert (toString slot.index.toNat) (Hex.encode value))

end PcrTable

namespace PcrValues

/-- The **table** of some values, with the canonical spellings. -/
def table (v : PcrValues) : PcrTable :=
  v.toList.foldl (fun table (slot, value) => PcrTable.insert table slot value) ∅

/-- The **values** in a file. -/
def ofText (text : String) : Except PcrFileFault PcrValues :=
  match PcrTable.ofText? text with
  | some table => PcrTable.values table
  | none => .error .malformed

/-- The **file** of some values. -/
def file (v : PcrValues) : String :=
  (PcrTable.json v.table).pretty

end PcrValues

end RemoteAttestation
