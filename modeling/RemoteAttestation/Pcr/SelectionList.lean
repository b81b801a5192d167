import RemoteAttestation.Bytes.Hex
import RemoteAttestation.Pcr.Selection
import RemoteAttestation.Wire.Reader
import RemoteAttestation.Wire.Writer

/-!
# Lists of Selections on the Wire

A list of selections is a count in four octets and then, for each selection, the identifier of
its bank, the length of its bitmap in one octet, and the bitmap. Reading keeps the order of the
banks. It refuses what no TPM with these banks can mean: too many banks, a bank that is not a
hash, a bitmap longer than four octets, or a bit for an index that no bank has.

## Main definitions

* `SelectionList.write`: the wire form of a list.
* `SelectionList.read`: the reader of that form.
-/

namespace RemoteAttestation

/-- Why a list of selections cannot be read. -/
inductive SelectionListFault where
  /-- The list is cut short. -/
  | underflow (fault : Underflow)
  /-- The list counts more banks than a TPM has. -/
  | tooManyBanks (count : UInt32)
  /-- An identifier stands for no hash. -/
  | unknownBank (id : UInt16)
  /-- A bitmap is too long. -/
  | bitmapTooLong (size : UInt8)
  /-- A bitmap has a bit for an index that no bank has. -/
  | outOfRange (bank : Algorithm) (index : UInt8)
  deriving Repr, DecidableEq

namespace SelectionList

/-- The largest number of banks in a list. -/
def maxBanks : UInt32 := 16

/-- The largest number of octets in a bitmap that is read. -/
def maxBitmap : UInt8 := 4

end SelectionList

namespace SelectionListFault

/-- The wording of a fault. -/
def message : SelectionListFault → String
  | underflow fault => fault.message
  | tooManyBanks count =>
    s!"PCR selection count {count.toNat} exceeds {SelectionList.maxBanks.toNat}"
  | unknownBank id => s!"unknown PCR bank algorithm 0x{Hex.encodeUpper (Wire.u16 id)}"
  | bitmapTooLong size =>
    s!"sizeofSelect {size.toNat} exceeds {SelectionList.maxBitmap.toNat}"
  | outOfRange bank index => (SelectionFault.outOfRange bank index).message

end SelectionListFault

namespace SelectionList

/-- The wire form of one selection. -/
def writeEntry (s : Selection) : Bytes :=
  let bitmap := s.toBitmap
  Wire.u16 s.bank.id ++ Wire.u8 (UInt8.ofNat bitmap.length) ++ bitmap

/-- The **wire form** of a list of selections. -/
def write (selections : List Selection) : Bytes :=
  Bytes.ofNat 4 selections.length ++ selections.flatMap writeEntry

/-- Reads one selection. -/
def readEntry : Reader SelectionListFault Selection := do
  let id ← Reader.u16.orFail .underflow
  let some bank := (Algorithm.ofId? id).filter Algorithm.isHash | throw (.unknownBank id)
  let size ← Reader.u8.orFail .underflow
  if maxBitmap < size then throw (.bitmapTooLong size)
  let bitmap ← (Reader.take size.toNat).orFail .underflow
  let selection := Selection.ofBitmap bank bitmap
  match selection.indices.find? (pcrCount ≤ ·) with
  | some index => throw (.outOfRange bank index)
  | none => return selection

/-- Reads `n` selections. -/
def readEntries : (n : Nat) → Reader SelectionListFault (List Selection)
  | 0 => return []
  | n + 1 => do
    let selection ← readEntry
    return selection :: (← readEntries n)

/-- Reads a **list** of selections, in the order of its banks. -/
def read : Reader SelectionListFault (List Selection) := do
  let count ← Reader.u32.orFail .underflow
  if maxBanks < count then throw (.tooManyBanks count)
  readEntries count.toNat

end SelectionList

end RemoteAttestation
