import RemoteAttestation.Pcr.Selection
import Std.Data.ExtTreeMap

/-!
# PCR Values

Known values of PCRs, whether a TPM reported them or a verifier expects them. A value belongs
to a slot, which is a bank and an index. Slots are ordered by the bank's identifier and then by
index; a listing follows that order, and two collections with the same values in the same slots
are equal.

## Main definitions

* `Slot`: a PCR of a bank, with its order.
* `PcrValues`: the values by slot, with `get?`, `insert` and `toList`.
* `PcrValues.concat`: the values that a list of selections covers, one after the other.
-/

namespace RemoteAttestation

/-- A PCR of a bank. -/
structure Slot where
  /-- The algorithm of the bank. -/
  bank : Algorithm
  /-- The index within the bank. -/
  index : UInt8
  deriving Repr, DecidableEq

namespace Slot

/-- Slots are ordered by the identifier of their bank, and within a bank by index. -/
instance : Ord Slot where
  compare := compareLex (compareOn (·.bank.id.toNat)) (compareOn (·.index.toNat))

/-- Slots are ordered by the identifier of the bank and then by the index. -/
theorem compare_def :
    (compare : Slot → Slot → Ordering) =
      compareLex (compareOn (·.bank.id.toNat)) (compareOn (·.index.toNat)) :=
  rfl

instance : Std.TransOrd Slot :=
  inferInstanceAs (Std.TransCmp (compareLex (compareOn fun s : Slot => s.bank.id.toNat)
    (compareOn fun s : Slot => s.index.toNat)))

/-- Algorithms with one identifier are one algorithm, so slots that compare equal are equal. -/
theorem bank_eq_of_id_eq {a b : Algorithm} (h : a.id = b.id) : a = b := by
  have := congrArg Algorithm.ofId? h
  simpa [Algorithm.ofId?_id] using this

instance : Std.LawfulEqOrd Slot where
  eq_of_compare {a b} h := by
    simp only [compare_def, compareLex_eq_eq, compareOn, Std.compare_eq_iff_eq] at h
    obtain ⟨hBank, hIndex⟩ := h
    cases a; cases b
    simp only [Slot.mk.injEq]
    exact ⟨bank_eq_of_id_eq (UInt16.toNat_inj.1 hBank), UInt8.toNat_inj.1 hIndex⟩

/-- The usual way to write a slot. -/
def name (s : Slot) : String :=
  s!"{s.bank.name}:{s.index.toNat}"

end Slot

/-- Values of PCRs by slot. -/
structure PcrValues where
  /-- The value of each known slot. -/
  bySlot : Std.ExtTreeMap Slot Bytes

namespace PcrValues

/-- No values. -/
def empty : PcrValues :=
  ⟨∅⟩

/-- The value in a slot. -/
def get? (v : PcrValues) (slot : Slot) : Option Bytes :=
  v.bySlot[slot]?

/-- The values with one more, which takes the place of an earlier value in the slot. -/
def insert (v : PcrValues) (slot : Slot) (value : Bytes) : PcrValues :=
  ⟨v.bySlot.insert slot value⟩

/-- The values in the order of their slots. -/
def toList (v : PcrValues) : List (Slot × Bytes) :=
  v.bySlot.toList

/-- The number of values. -/
def size (v : PcrValues) : Nat :=
  v.bySlot.size

/-- The values with those in `entries` put in one after the other. -/
def insertAll (v : PcrValues) (entries : List (Slot × Bytes)) : PcrValues :=
  entries.foldl (fun v (slot, value) => v.insert slot value) v

/-- The values of some slots, one after the other, or the first slot without a value. -/
def concatSlots (v : PcrValues) : List Slot → Except Slot Bytes
  | [] => .ok []
  | slot :: rest =>
    match v.get? slot with
    | none => .error slot
    | some value => (value ++ ·) <$> concatSlots v rest

end PcrValues

namespace Selection

/-- The slots of a selection, in ascending order. -/
def slots (s : Selection) : List Slot :=
  s.indices.map (⟨s.bank, ·⟩)

end Selection

/-- The **preimage** of a quote's PCR digest: the values that the selections cover, bank by
bank in the order of the list and lowest index first. The fault is the first slot without a
value. -/
def PcrValues.concat (v : PcrValues) (selections : List Selection) : Except Slot Bytes :=
  v.concatSlots (selections.flatMap Selection.slots)

end RemoteAttestation
