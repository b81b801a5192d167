import RemoteAttestation.Algorithm

/-!
# PCR Selections

A selection names some PCRs of one bank. On the wire it is a bitmap, in which bit `n` of octet
`b` stands for PCR `8 * b + n`, so the order of a selection is always ascending; the digest of
a quote concatenates the values in that order too. `Selection.make` builds what an operator
asks for and checks it, `Selection.ofBitmap` takes what a TPM sent as it stands.

## Main definitions

* `Selection`: a bank with a strictly ascending list of indices.
* `Selection.ofIndices`: the selection of the indices in a list.
* `Selection.make`: a checked selection, or the first fault found.
* `Selection.ofBitmap`, `Selection.toBitmap`: to and from the bitmap form.
-/

namespace RemoteAttestation

/-- The number of PCRs in a bank. -/
def pcrCount : UInt8 := 24

/-- The selected PCRs of one bank. -/
structure Selection where
  /-- The algorithm of the bank. -/
  bank : Algorithm
  /-- The selected indices in ascending order. -/
  indices : List UInt8
  /-- The order of the indices is strict, so no index is repeated. -/
  ascending : indices.Pairwise (· < ·)
  deriving DecidableEq

/-- Why a selection, or a list of selections, cannot be used. -/
inductive SelectionFault where
  /-- The bank's algorithm is not a hash. -/
  | notABank (bank : Algorithm)
  /-- No index is selected. -/
  | noneSelected (bank : Algorithm)
  /-- An index is not below the number of PCRs in a bank. -/
  | outOfRange (bank : Algorithm) (index : UInt8)
  /-- An index is listed a second time. -/
  | repeatedIndex (bank : Algorithm) (index : UInt8)
  /-- There is no selection in the list. -/
  | noBanks
  /-- A bank is listed a second time. -/
  | repeatedBank (bank : Algorithm)
  deriving Repr, DecidableEq

namespace SelectionFault

/-- The wording of a fault. -/
def message : SelectionFault → String
  | notABank bank => s!"{bank.name} is not a PCR bank algorithm"
  | noneSelected bank => s!"no PCRs selected in {bank.name} bank"
  | outOfRange bank index =>
    s!"PCR {index.toNat} out of range for {bank.name} bank (0..{pcrCount.toNat})"
  | repeatedIndex bank index => s!"PCR {index.toNat} selected twice in {bank.name} bank"
  | noBanks => "no PCR banks selected"
  | repeatedBank bank => s!"{bank.name} bank selected twice"

end SelectionFault

namespace Selection

/-! ### Sets of indices -/

/-- Every index there is, in ascending order. -/
def allIndices : List UInt8 :=
  (List.range 256).map UInt8.ofNat

/-- The list of all indices ascends, and so do the indices of any selection, which are a part
of it. -/
theorem allIndices_ascending : allIndices.Pairwise (· < ·) := by
  rw [allIndices, List.pairwise_map]
  refine List.pairwise_lt_range.imp_of_mem fun ha hb hlt => ?_
  rw [List.mem_range] at ha hb
  rw [UInt8.lt_iff_toNat_lt, UInt8.toNat_ofNat_of_lt' ha, UInt8.toNat_ofNat_of_lt' hb]
  exact hlt

/-- The **selection** of the indices in a list. Order and repetition in the list are lost. -/
def ofIndices (bank : Algorithm) (indices : List UInt8) : Selection where
  bank := bank
  indices := allIndices.filter (indices.contains ·)
  ascending := allIndices_ascending.filter _

/-- Whether an index is selected. -/
def contains (s : Selection) (index : UInt8) : Bool :=
  s.indices.contains index

/-- Whether nothing is selected. -/
def isEmpty (s : Selection) : Bool :=
  s.indices.isEmpty

/-- The number of selected indices. -/
def size (s : Selection) : Nat :=
  s.indices.length

/-! ### Checked selections -/

/-- The first fault among `indices`, which follow the indices in `earlier`. -/
def firstFault? (bank : Algorithm) (earlier : List UInt8) : List UInt8 → Option SelectionFault
  | [] => none
  | index :: rest =>
    if pcrCount ≤ index then some (.outOfRange bank index)
    else if earlier.contains index then some (.repeatedIndex bank index)
    else firstFault? bank (index :: earlier) rest

/-- The selection an operator asks for: some PCRs of a hash bank, each in range and listed
once. -/
def make (bank : Algorithm) (indices : List UInt8) : Except SelectionFault Selection :=
  if !bank.isHash then .error (.notABank bank)
  else if indices.isEmpty then .error (.noneSelected bank)
  else match firstFault? bank [] indices with
    | some fault => .error fault
    | none => .ok (ofIndices bank indices)

/-! ### Bitmaps -/

/-- The numbers `8 * position + n`, modulo 256, of the set bits of `octet`. -/
def octetBits (position : Nat) (octet : UInt8) : List UInt8 :=
  ((List.range 8).filter octet.toNat.testBit).map fun n => UInt8.ofNat (8 * position + n)

/-- The numbers of the set bits of `bitmap`, whose first octet stands at `position`. -/
def bitNumbers (position : Nat) : Bytes → List UInt8
  | [] => []
  | octet :: rest => octetBits position octet ++ bitNumbers (position + 1) rest

/-- The selection that a bitmap describes. It may be empty, and it may name indices that no
bank has; a bit beyond the last index counts modulo 256. -/
def ofBitmap (bank : Algorithm) (bitmap : Bytes) : Selection :=
  ofIndices bank (bitNumbers 0 bitmap)

/-- The number of octets in a bitmap: as many as the highest index needs, but enough for all
PCRs of a bank. -/
def bitmapSize (s : Selection) : Nat :=
  max 3 ((s.indices.getLast?.map UInt8.toNat).getD 0 / 8 + 1)

/-- Octet `position` of the bitmap. -/
def bitmapOctet (s : Selection) (position : Nat) : UInt8 :=
  UInt8.ofNat <| (List.range 8).foldl (fun octet n =>
    if s.contains (UInt8.ofNat (8 * position + n)) then octet ||| 1 <<< n else octet) 0

/-- The **bitmap** of a selection. -/
def toBitmap (s : Selection) : Bytes :=
  (List.range s.bitmapSize).map s.bitmapOctet

end Selection

end RemoteAttestation
