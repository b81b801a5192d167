import RemoteAttestation.CommandLine.Operand
import RemoteAttestation.Json.Source
import RemoteAttestation.Notice
import RemoteAttestation.Quote.Scheme
import RemoteAttestation.Text.Place

/-!
# Settings

What `quote` and `pcrs` work with, from a settings file or by default: the device, the handle
of the key, the PCRs, the scheme and the size of nonces. The file is a JSON object that may
leave out any setting, or a list of the settings in this order. It is judged from front to
back: a setting that is unknown or repeated is refused at its name, and the first fault
decides.

## Main definitions

* `Settings`: the settings, with their defaults.
* `SettingsFault`: why a text does not hold settings.
* `Settings.ofText`: the settings in a text.
-/

namespace RemoteAttestation

/-- The settings of the commands that talk to a TPM. -/
structure Settings where
  /-- The path of the device. -/
  device : String := "/dev/tpmrm0"
  /-- The handle of the key that signs. -/
  keyHandle : UInt32 := 0x81010006
  /-- The PCRs, bank by bank. -/
  pcrs : List PcrBank := [⟨.sha256, [0]⟩]
  /-- The scheme of signatures. -/
  scheme : Scheme := .null
  /-- The number of octets in a nonce. -/
  nonceSize : Nat := 32
  deriving Repr, DecidableEq

/-- Why a text does not hold settings. -/
inductive SettingsFault where
  /-- The text is not JSON, or not of the right form. -/
  | malformed
  /-- The handle of the key is not one. -/
  | handle (fault : HandleFault)
  /-- A bank has an unknown name. -/
  | bank (fault : UnknownAlgorithm)
  /-- The scheme is not one. -/
  | scheme (fault : SchemeFault)
  deriving Repr, DecidableEq

namespace SettingsFault

/-- The wording of an unknown name. A name that ends like a place in a file is worded without
that ending; the blank in front of the name may be a part of it, and then no wording is
left. -/
def unknownMessage? (fault : UnknownAlgorithm) : Option String :=
  let wording := Text.dropPlace fault.message.toList
  if UnknownAlgorithm.label.toList.isPrefixOf wording then some (String.ofList wording) else none

/-- The wording of a fault, for those that the program words itself. -/
def message? : SettingsFault → Option String
  | malformed => none
  | handle fault => some fault.message
  | bank fault => unknownMessage? fault
  | scheme (.unknown fault) => unknownMessage? fault
  | scheme fault => some fault.message

/-- A value, or the fault of a text of the wrong form. -/
def ofOption {α : Type} : Option α → Except SettingsFault α
  | some value => .ok value
  | none => .error malformed

end SettingsFault

open SettingsFault (ofOption)

/-! ### Records -/

/-- Puts the members of an object, or the items of a list in the order of `names`, into a
record, one after the other. -/
def fillRecord {ρ : Type} (names : List String)
    (set : ρ → String → JsonSource → Except SettingsFault ρ) (start : ρ) :
    JsonSource → Except SettingsFault ρ
  | .object members closed => do
    let record ← members.foldlM
      (fun record (name, value) => do set record (← ofOption name) value) start
    if closed then return record else throw .malformed
  | .array items closed => do
    let record ← (names.zip items).foldlM (fun record (name, value) => set record name value) start
    if closed ∧ items.length ≤ names.length then return record else throw .malformed
  | _ => .error .malformed

/-- Puts a value into a place of a record, which must be empty. -/
def fillPlace {α ρ : Type} (place : Option α) (value : Except SettingsFault α)
    (put : α → ρ) : Except SettingsFault ρ :=
  if place.isSome then .error .malformed else put <$> value

/-! ### Banks -/

/-- A bank whose parts are not all known yet. -/
structure PcrBankDraft where
  /-- The algorithm of the bank. -/
  bank : Option Algorithm := none
  /-- The indices. -/
  indices : Option (List UInt8) := none

namespace PcrBankDraft

/-- The algorithm that a value names. -/
def readBank (value : JsonSource) : Except SettingsFault Algorithm := do
  (Algorithm.ofName (← ofOption value.text?)).mapError .bank

/-- The indices that a value lists. -/
def readIndices (value : JsonSource) : Except SettingsFault (List UInt8) := do
  let items ← ofOption value.items?
  ofOption (items.mapM fun item => (item.integer? 256).map UInt8.ofNat)

/-- Puts a named value into a draft. -/
def set (draft : PcrBankDraft) (name : String) (value : JsonSource) :
    Except SettingsFault PcrBankDraft :=
  match name with
  | "alg" => fillPlace draft.bank (readBank value) fun bank => { draft with bank := some bank }
  | "indices" =>
    fillPlace draft.indices (readIndices value) fun indices =>
      { draft with indices := some indices }
  | _ => .error .malformed

end PcrBankDraft

/-- The bank that a value describes. Both parts are needed. -/
def PcrBank.ofSource (value : JsonSource) : Except SettingsFault PcrBank := do
  let draft ← fillRecord ["alg", "indices"] PcrBankDraft.set {} value
  match draft.bank, draft.indices with
  | some bank, some indices => return ⟨bank, indices⟩
  | _, _ => throw .malformed

/-! ### Settings -/

/-- Settings of which some are still unknown. -/
structure SettingsDraft where
  /-- The path of the device. -/
  device : Option String := none
  /-- The handle of the key. -/
  keyHandle : Option UInt32 := none
  /-- The PCRs. -/
  pcrs : Option (List PcrBank) := none
  /-- The scheme. -/
  scheme : Option Scheme := none
  /-- The size of nonces. -/
  nonceSize : Option Nat := none

namespace SettingsDraft

/-- The handle that a value writes. -/
def readHandle (value : JsonSource) : Except SettingsFault UInt32 := do
  (parseHandle (← ofOption value.text?)).mapError .handle

/-- The banks that a value lists. -/
def readBanks : JsonSource → Except SettingsFault (List PcrBank)
  | .array items closed => do
    let banks ← items.mapM PcrBank.ofSource
    if closed then return banks else throw .malformed
  | _ => .error .malformed

/-- The scheme that a value writes. -/
def readScheme (value : JsonSource) : Except SettingsFault Scheme := do
  (Scheme.parse (← ofOption value.text?)).mapError .scheme

/-- Puts a named value into a draft. -/
def set (draft : SettingsDraft) (name : String) (value : JsonSource) :
    Except SettingsFault SettingsDraft :=
  match name with
  | "device" =>
    fillPlace draft.device (ofOption value.text?) fun device =>
      { draft with device := some device }
  | "key_handle" =>
    fillPlace draft.keyHandle (readHandle value) fun handle =>
      { draft with keyHandle := some handle }
  | "pcrs" => fillPlace draft.pcrs (readBanks value) fun pcrs => { draft with pcrs := some pcrs }
  | "scheme" =>
    fillPlace draft.scheme (readScheme value) fun scheme => { draft with scheme := some scheme }
  | "nonce_size" =>
    fillPlace draft.nonceSize (ofOption (value.integer? (1 <<< 64))) fun size =>
      { draft with nonceSize := some size }
  | _ => .error .malformed

/-- The settings of a draft, with defaults in the empty places. -/
def settings (draft : SettingsDraft) : Settings :=
  let default : Settings := {}
  { device := draft.device.getD default.device
    keyHandle := draft.keyHandle.getD default.keyHandle
    pcrs := draft.pcrs.getD default.pcrs
    scheme := draft.scheme.getD default.scheme
    nonceSize := draft.nonceSize.getD default.nonceSize }

end SettingsDraft

namespace Settings

/-- The names of the settings, in the order of a list. -/
def names : List String :=
  ["device", "key_handle", "pcrs", "scheme", "nonce_size"]

/-- The **settings** in a text. -/
def ofText (text : String) : Except SettingsFault Settings := do
  let document := JsonDocument.ofText text
  let draft ← fillRecord names SettingsDraft.set {} document.value
  if document.ended then return draft.settings else throw .malformed

/-- The form in which notices show a bank. -/
def bankForm (b : PcrBank) : String :=
  "PcrBank \x7b " ++
    s!"alg: {Scheme.noticeName b.bank}, indices: {Quoted.indices b.indices}" ++ " \x7d"

/-- The form in which notices show settings. -/
def noticeForm (settings : Settings) : String :=
  "Config \x7b " ++
    s!"device: {Quoted.text settings.device}, key_handle: {settings.keyHandle}, pcrs: [" ++
    String.intercalate ", " (settings.pcrs.map bankForm) ++
    s!"], scheme: {settings.scheme.noticeForm}, nonce_size: {settings.nonceSize}" ++ " \x7d"

/-- What the operator is told of the settings of a command. -/
def notice (settings : Settings) : Notice :=
  ⟨.debug, s!"Effective config: {settings.noticeForm}"⟩

/-- The selections that the settings ask for, or the first fault among them. -/
def selections (settings : Settings) : Except SelectionFault (List Selection) :=
  settings.pcrs.mapM PcrBank.selection

end Settings

end RemoteAttestation
