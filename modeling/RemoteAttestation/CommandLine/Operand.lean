import RemoteAttestation.Algorithm
import RemoteAttestation.Pcr.Selection
import RemoteAttestation.Text.Blank
import RemoteAttestation.Text.Numeral
import RemoteAttestation.Text.Quoted
import RemoteAttestation.Text.Split

/-!
# Operands

What operators write on the command line and in settings: the handle of a key, in hexadecimal
with or without `0x`, and the PCRs of a bank, as the name of its algorithm, a colon and a list
of indices with commas. The items of the list may have blanks around them; they are all read
before the name is looked up.

## Main definitions

* `HandleFault`, `parseHandle`: handles.
* `PcrBank`, `PcrBankFault`, `PcrBank.parse`: the PCRs of a bank as they are asked for.
* `PcrBank.selection`: the selection that is asked for.
-/

namespace RemoteAttestation

/-! ### Handles -/

/-- A text that is not a handle. -/
structure HandleFault where
  /-- The text. -/
  text : String
  /-- What is wrong with its digits. -/
  fault : NumeralFault
  deriving Repr, DecidableEq

/-- The wording of a fault. -/
def HandleFault.message (fault : HandleFault) : String :=
  s!"Invalid key handle {Quoted.text fault.text}: {fault.fault.message}"

/-- A text without the `0x` it may start with. -/
def dropHexMark : List Char → List Char
  | '0' :: 'x' :: digits => digits
  | '0' :: 'X' :: digits => digits
  | digits => digits

/-- The **handle** that a text writes. -/
def parseHandle (text : String) : Except HandleFault UInt32 :=
  match Numeral.read 16 (1 <<< 32) (dropHexMark text.toList) with
  | .ok n => .ok (UInt32.ofNat n)
  | .error fault => .error ⟨text, fault⟩

/-! ### PCRs of a bank -/

/-- The PCRs of a bank as an operator asks for them. They are not checked yet. -/
structure PcrBank where
  /-- The algorithm of the bank. -/
  bank : Algorithm
  /-- The indices in the order of the request. -/
  indices : List UInt8
  deriving Repr, DecidableEq

/-- Why a text does not ask for PCRs of a bank. -/
inductive PcrBankFault where
  /-- There is no colon. -/
  | noColon (text : String)
  /-- An item of the list is not an index. -/
  | badIndex (item : String) (fault : NumeralFault)
  /-- The name is not that of an algorithm. -/
  | unknown (fault : UnknownAlgorithm)
  deriving Repr, DecidableEq

/-- The wording of a fault. -/
def PcrBankFault.message : PcrBankFault → String
  | noColon text => s!"PCR selection {Quoted.text text} must look like ALG:I,J,..."
  | badIndex item fault => s!"Invalid PCR index {Quoted.text item}: {fault.message}"
  | unknown fault => fault.message

/-- The index that an item of a list writes. -/
def parseIndex (item : List Char) : Except PcrBankFault UInt8 :=
  match Numeral.read 10 256 (Text.trim item) with
  | .ok n => .ok (UInt8.ofNat n)
  | .error fault => .error (.badIndex (String.ofList item) fault)

namespace PcrBank

/-- The **PCRs** that a text asks for. -/
def parse (text : String) : Except PcrBankFault PcrBank := do
  match Text.splitFirst? ':' text.toList with
  | none => throw (.noColon text)
  | some (name, list) =>
    let indices ← (Text.splitAll ',' list).mapM parseIndex
    let bank ← (Algorithm.ofName (String.ofList name)).mapError .unknown
    return ⟨bank, indices⟩

/-- The **selection** that is asked for. -/
def selection (b : PcrBank) : Except SelectionFault Selection :=
  Selection.make b.bank b.indices

end PcrBank

end RemoteAttestation
