import Mathlib.Data.List.Perm.Subperm
import RemoteAttestation.Algorithm

/-!
# Algorithms by Identifier and by Name

An algorithm has one identifier and one canonical name, and each of them leads back to it. Only
a hash has digests, so an algorithm is a hash just when the size of its digests is known.

## Main results

* `Algorithm.ofId?_eq_some_iff`: the algorithm with an identifier.
* `Algorithm.ofName_name`: the canonical name names the algorithm.
* `Algorithm.ofName_eq_ok_iff`: the algorithm that a word names.
* `Algorithm.length_le_of_nodup`: a list of different algorithms is short.
-/

namespace RemoteAttestation.Algorithm

/-- An identifier names an algorithm just when it is the identifier of it. -/
theorem ofId?_eq_some_iff {id : UInt16} {a : Algorithm} : ofId? id = some a ↔ id = a.id := by
  constructor
  · intro h
    have hId := List.find?_some h
    exact (beq_iff_eq.mp hId).symm
  · rintro rfl
    exact ofId?_id a

/-- An identifier that must stand for a hash. -/
theorem filter_isHash_eq_some_iff {id : UInt16} {a : Algorithm} :
    (ofId? id).filter isHash = some a ↔ id = a.id ∧ a.isHash = true := by
  rw [Option.filter_eq_some_iff, ofId?_eq_some_iff]

/-- The name of an algorithm is read back. -/
@[simp] theorem ofName_name (a : Algorithm) : ofName a.name = .ok a := by
  cases a <;> decide +kernel

/-! ### Spelled names -/

/-- A word **names** an algorithm when it is the algorithm's name in letters of either case,
with hyphens anywhere. -/
def Names (word : List Char) (a : Algorithm) : Prop :=
  (word.filter (· ≠ '-')).map Char.toLower = a.name.toList

/-- Only the hyphen is a hyphen in lower case. -/
theorem toLower_eq_hyphen_iff {c : Char} : c.toLower = '-' ↔ c = '-' := by
  by_cases hUpper : c.val ≥ 'A'.val ∧ c.val ≤ 'Z'.val
  · have hVal : c.toLower.val = c.val + 32 := congrArg Char.val (dif_pos hUpper)
    have hLow : 65 ≤ c.val.toNat := hUpper.1
    have hHigh : c.val.toNat ≤ 90 := hUpper.2
    refine iff_of_false (fun h => ?_) fun h => ?_
    · have hCode : (c.val.toNat + 32) % 2 ^ 32 = 45 := by
        rw [h] at hVal
        exact (UInt32.toNat_add _ _).symm.trans (congrArg UInt32.toNat hVal.symm)
      omega
    · rw [h] at hLow
      exact absurd hLow (by decide)
  · have hSame : c.toLower = c := dif_neg hUpper
    rw [hSame]

/-- The form in which words are looked up has no hyphens and no capitals. -/
theorem toList_lookupForm (word : String) :
    (lookupForm word).toList = (word.toList.filter (· ≠ '-')).map Char.toLower := by
  rw [lookupForm, String.toList_ofList, List.filter_map]
  refine congrArg _ (List.filter_congr fun c _ => ?_)
  rw [Function.comp_apply, Bool.eq_iff_iff, bne_iff_ne, ne_eq, toLower_eq_hyphen_iff,
    decide_eq_true_eq]

/-- Names are in the form in which they are looked up. -/
theorem lookupForm_name (a : Algorithm) : lookupForm a.name = a.name := by
  cases a <;> decide +kernel

/-- **The algorithm that is found** for a word is the one that the word names. -/
theorem ofName_eq_ok_iff {word : String} {a : Algorithm} :
    ofName word = .ok a ↔ Names word.toList a := by
  rw [Names, ← toList_lookupForm, String.toList_inj]
  constructor
  · intro h
    rw [ofName] at h
    split at h
    · rename_i b hFind
      have hName := List.find?_some hFind
      obtain rfl := Except.ok.inj h
      exact (beq_iff_eq.mp hName).symm
    · cases h
  · intro h
    rw [← ofName_name a, ofName, ofName, h, lookupForm_name]

/-- The hashes among the algorithms, one by one. -/
theorem isHash_iff_mem {a : Algorithm} : a.isHash = true ↔ a ∈ [sha1, sha256, sha384, sha512] := by
  cases a <;> decide

/-- No two algorithms have the same name. -/
theorem name_inj {a b : Algorithm} (h : a.name = b.name) : a = b := by
  have hOk := congrArg ofName h
  rw [ofName_name, ofName_name] at hOk
  exact Except.ok.inj hOk

/-- The list of all algorithms leaves none out. -/
theorem mem_all (a : Algorithm) : a ∈ all := by
  cases a <;> decide

/-- Without repetition there are at most eleven algorithms in a list. -/
theorem length_le_of_nodup {l : List Algorithm} (h : l.Nodup) : l.length ≤ 11 :=
  (List.subperm_of_subset h fun a _ => mem_all a).length_le

/-- The hashes are the algorithms whose digests have a size. -/
theorem isHash_iff_digestSize? {a : Algorithm} :
    a.isHash = true ↔ ∃ size, a.digestSize? = some size := by
  rw [isHash, digestSize?, Option.isSome_iff_exists]
  cases a.hash? with
  | none => simp
  | some hash => simp

end RemoteAttestation.Algorithm
