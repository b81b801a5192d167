import RemoteAttestation.CommandLine.Flags
import RemoteAttestation.Proofs.Results

/-!
# Flags and Their Values

The arguments that are read as flags are exactly the flags of the command with a value behind
each, written one after the other; nothing about the values matters, so a value may be spelled
like a flag. Of several values of a flag the last one counts: `LastValue` says which that is.

## Main results

* `Flags.parse_eq_ok_iff`: which arguments are flags, and with which values.
* `Flags.require_eq_ok_iff`: which value of a flag counts.
-/

namespace RemoteAttestation

namespace Flags

/-- The arguments that flags with their values are written as. -/
def written (pairs : List (String × String)) : List String :=
  pairs.flatMap fun p => [p.1, p.2]

/-- The **last value** of a flag: the flag does not come again behind it. -/
def LastValue (pairs : List (String × String)) (flag value : String) : Prop :=
  ∃ before after, pairs = before ++ (flag, value) :: after ∧ ∀ p ∈ after, p.1 ≠ flag

/-- Arguments are read as flags when they are flags of the command, each with a value.
Induction by two arguments at a time, as they are read. -/
theorem parsePairs_eq_ok_iff {known arguments : List String} {pairs : List (String × String)} :
    parsePairs known arguments = .ok pairs ↔
      arguments = written pairs ∧ ∀ p ∈ pairs, p.1 ∈ known := by
  induction arguments using parsePairs.induct known generalizing pairs with
  | case1 =>
      rw [parsePairs, Except.ok.injEq]
      cases pairs <;> simp [written]
  | case2 flag =>
      rw [parsePairs]
      cases pairs <;> simp [written]
  | case3 flag value rest hKnown ih =>
      rw [List.contains_iff_mem] at hKnown
      rw [parsePairs, if_pos (List.contains_iff_mem.mpr hKnown), map_eq_ok_iff]
      simp only [ih]
      constructor
      · rintro ⟨tail, ⟨rfl, hTail⟩, rfl⟩
        exact ⟨rfl, List.forall_mem_cons.mpr ⟨hKnown, hTail⟩⟩
      · rintro ⟨hWritten, hAll⟩
        cases pairs with
        | nil => cases hWritten
        | cons p tail =>
            obtain ⟨rfl, rfl, rfl⟩ : flag = p.1 ∧ value = p.2 ∧ rest = written tail := by
              simpa [written] using hWritten
            exact ⟨tail, ⟨rfl, (List.forall_mem_cons.mp hAll).2⟩, rfl⟩
  | case4 flag value rest hUnknown =>
      rw [List.contains_iff_mem] at hUnknown
      rw [parsePairs, if_neg (mt List.contains_iff_mem.mp hUnknown)]
      simp only [reduceCtorEq, false_iff, not_and]
      intro hWritten hAll
      cases pairs with
      | nil => cases hWritten
      | cons p tail =>
          obtain ⟨rfl, -⟩ : flag = p.1 ∧ value = p.2 ∧ rest = written tail := by
            simpa [written] using hWritten
          exact hUnknown (List.forall_mem_cons.mp hAll).1

/-- The flags of some arguments are those that **write** the arguments, if all of them are
known. -/
theorem parse_eq_ok_iff {known arguments : List String} {flags : Flags} :
    parse known arguments = .ok flags ↔
      arguments = written flags.pairs ∧ ∀ p ∈ flags.pairs, p.1 ∈ known := by
  rw [← parsePairs_eq_ok_iff, parse, map_eq_ok_iff]
  constructor
  · rintro ⟨pairs, hPairs, rfl⟩
    exact hPairs
  · intro hPairs
    exact ⟨flags.pairs, hPairs, rfl⟩

/-- The value that counts is found by looking for the flag from the end. -/
theorem get?_eq_find? (flags : Flags) (flag : String) :
    flags.get? flag = (flags.pairs.reverse.find? (·.1 == flag)).map Prod.snd := by
  rw [get?, all, List.getLast?_map, List.getLast?_eq_head?_reverse, ← List.filter_reverse,
    List.head?_filter]

/-- The value that a flag has is its last one. -/
theorem get?_eq_some_iff {flags : Flags} {flag value : String} :
    flags.get? flag = some value ↔ LastValue flags.pairs flag value := by
  rw [get?_eq_find?, Option.map_eq_some_iff, LastValue]
  simp only [List.find?_eq_some_iff_append]
  constructor
  · rintro ⟨⟨own, last⟩, ⟨hFlag, after, before, hPairs, hAfter⟩, rfl⟩
    obtain rfl := beq_iff_eq.mp hFlag
    refine ⟨before.reverse, after.reverse, ?_, fun p hp => ?_⟩
    · rw [← List.reverse_reverse flags.pairs, hPairs]
      simp
    · simpa using hAfter p (List.mem_reverse.mp hp)
  · rintro ⟨before, after, hPairs, hAfter⟩
    refine ⟨(flag, value),
      ⟨beq_self_eq_true flag, after.reverse, before.reverse, ?_, fun p hp => ?_⟩, rfl⟩
    · rw [hPairs]
      simp
    · simpa using hAfter p (List.mem_reverse.mp hp)

/-- Only **one value** counts. -/
theorem LastValue.unique {pairs : List (String × String)} {flag value value' : String}
    (h : LastValue pairs flag value) (h' : LastValue pairs flag value') : value = value' := by
  have hGet : ∀ v, LastValue pairs flag v → (⟨pairs⟩ : Flags).get? flag = some v := fun _ hLast =>
    get?_eq_some_iff.mpr hLast
  exact Option.some.inj ((hGet value h).symm.trans (hGet value' h'))

/-- No value counts when the flag is not given. -/
theorem get?_eq_none_iff {flags : Flags} {flag : String} :
    flags.get? flag = none ↔ ∀ p ∈ flags.pairs, p.1 ≠ flag := by
  rw [get?_eq_find?, Option.map_eq_none_iff, List.find?_eq_none]
  simp only [List.mem_reverse, beq_iff_eq, ne_eq]

/-- A flag that is needed has its last value, and is not found without one. -/
theorem require_eq_ok_iff {flags : Flags} {flag value : String} :
    flags.require flag = .ok value ↔ LastValue flags.pairs flag value := by
  rw [← get?_eq_some_iff, require]
  cases flags.get? flag <;> simp

end Flags

end RemoteAttestation
