import Mathlib.Algebra.Group.Nat.Defs
import RemoteAttestation.Proofs.Json.Layout

/-!
# Values That a Reader Can Keep

A reader that passes over a value still wants it to be one that it could have kept: its strings
are texts, its numbers are finite in double precision, and it is not nested too deeply. A value
that was printed here has only texts, and numbers with at most 64 binary digits. Of such a
number the reader takes all decimal digits, and rounding at most doubles it, so it stays far
below what is infinite.

The bound on the depth goes down with each list and object, so it is carried together with the
rest (`Json.Fits`).

## Main results

* `JsonNumber.isFinite_numeral`: a number below `2 ^ 64` is finite.
* `Json.fits_number`, `Json.Fits.array`, `Json.Fits.object`: values that fit, from their parts.
-/

namespace RemoteAttestation

/-! ### Numbers -/

namespace JsonNumber

/-- Rounding at most **doubles** a number: the unit of the last digit is no more than the
number. -/
theorem roundToDouble_le (n : Nat) : roundToDouble n ≤ 2 * n := by
  rcases Nat.eq_zero_or_pos n with rfl | hPos
  · decide
  have hUnit : 1 <<< (n.log2 - 52) ≤ n := by
    rw [Nat.one_shiftLeft]
    exact Nat.le_trans (Nat.pow_le_pow_right Nat.two_pos (Nat.sub_le _ _))
      (Nat.log2_self_le (Nat.ne_of_gt hPos))
  have hQuotient := Nat.div_mul_le_self n (1 <<< (n.log2 - 52))
  rw [roundToDouble]
  generalize 1 <<< (n.log2 - 52) = unit at *
  split
  · rw [Nat.add_mul, Nat.one_mul]
    omega
  · omega

/-- **All digits** are taken of a number below `2 ^ 64`. -/
theorem takeDigits_eq {cs : List Char} {total : Nat}
    (h : Nat.ofDigitChars 10 cs total < 1 <<< 64) :
    takeDigits total cs = (Nat.ofDigitChars 10 cs total, []) := by
  induction cs generalizing total with
  | nil => rw [takeDigits, Nat.ofDigitChars_nil]
  | cons c cs ih =>
      rw [Nat.ofDigitChars_cons] at h ⊢
      have hNext : 10 * total + (c.toNat - '0'.toNat) < 1 <<< 64 :=
        Nat.lt_of_le_of_lt (Numeral.le_ofDigitChars cs _) h
      rw [takeDigits, if_pos hNext, ih h]

/-- A number of 64 bits has no more digits than are kept, so it needs no exponent. -/
theorem scientific_numeral {n : Nat} (h : n < 2 ^ 64) :
    (JsonSource.numeral n).scientific = (n, 0) := by
  have hDigits : takeDigits 0 (Nat.toDigits 10 n) = (n, []) := by
    rw [takeDigits_eq (by simpa using h)]
    simp
  rw [scientific, JsonSource.numeral, hDigits]
  rfl

/-- **A number below `2 ^ 64` is finite.** -/
theorem isFinite_numeral {n : Nat} (h : n < 2 ^ 64) :
    (JsonSource.numeral n).isFinite = true := by
  have hBound : roundToDouble n * roundToDouble 1 < infinite := calc
    roundToDouble n * roundToDouble 1 ≤ 2 * n * (2 * 1) :=
      Nat.mul_le_mul (roundToDouble_le n) (roundToDouble_le 1)
    _ ≤ 2 ^ 66 := by omega
    _ < infinite := by decide
  rw [isFinite, scientific_numeral h]
  dsimp only
  split
  · rfl
  · exact decide_eq_true hBound

end JsonNumber

/-! ### Lists and objects -/

namespace JsonSource

/-- Items are usable when each of them is. -/
theorem areUsable_iff {items : List JsonSource} :
    areUsable items = true ↔ ∀ item ∈ items, item.isUsable = true := by
  induction items with
  | nil => simp [areUsable]
  | cons item items ih => simp [areUsable, ih]

/-- Items are so deep at most when each of them is. -/
theorem depthItems_le_iff {items : List JsonSource} {d : Nat} :
    depthItems items ≤ d ↔ ∀ item ∈ items, item.depth ≤ d := by
  induction items with
  | nil => simp [depthItems]
  | cons item items ih => rw [depthItems, Nat.max_le, List.forall_mem_cons, ih]

theorem areUsableMembers_iff {members : List (Option String × JsonSource)} :
    areUsableMembers members = true ↔
      ∀ member ∈ members, member.1.isSome = true ∧ member.2.isUsable = true := by
  induction members with
  | nil => simp [areUsableMembers]
  | cons member members ih => simp [areUsableMembers, ih]

theorem depthMembers_le_iff {members : List (Option String × JsonSource)} {d : Nat} :
    depthMembers members ≤ d ↔ ∀ member ∈ members, member.2.depth ≤ d := by
  induction members with
  | nil => simp [depthMembers]
  | cons member members ih => rw [depthMembers, Nat.max_le, List.forall_mem_cons, ih]

end JsonSource

namespace Json

/-- A value that **fits** is usable when it is read back, with at most `d` lists and objects
inside one another. -/
structure Fits (d : Nat) (v : Json) : Prop where
  /-- It is usable. -/
  isUsable : (source v).isUsable = true
  /-- It is not too deep. -/
  depth_le : (source v).depth ≤ d

variable {d : Nat}

/-- What fits into a depth fits into more. -/
theorem Fits.mono {e : Nat} {v : Json} (h : Fits d v) (hLe : d ≤ e) : Fits e v :=
  ⟨h.isUsable, Nat.le_trans h.depth_le hLe⟩

/-- A truth value fits anywhere. -/
theorem fits_bool (b : Bool) : Fits d (.bool b) := ⟨rfl, Nat.zero_le d⟩

theorem fits_string (text : String) : Fits d (.string text) := ⟨rfl, Nat.zero_le d⟩

theorem fits_number {n : Nat} (h : n < 2 ^ 64) : Fits d (.number n) :=
  ⟨JsonNumber.isFinite_numeral h, Nat.zero_le d⟩

/-- A list needs one level more than its items. -/
theorem Fits.array {items : List Json} (h : ∀ item ∈ items, Fits d item) :
    Fits (d + 1) (.array items) := by
  constructor
  · rw [source, JsonSource.isUsable, Bool.true_and, JsonSource.areUsable_iff, sources_eq_map]
    exact List.forall_mem_map.mpr fun item hItem => (h item hItem).isUsable
  · rw [source, JsonSource.depth, Nat.add_le_add_iff_right, JsonSource.depthItems_le_iff,
      sources_eq_map]
    exact List.forall_mem_map.mpr fun item hItem => (h item hItem).depth_le

/-- An object needs one level more than its members. -/
theorem Fits.object {members : List (String × Json)} (h : ∀ member ∈ members, Fits d member.2) :
    Fits (d + 1) (.object members) := by
  constructor
  · rw [source, JsonSource.isUsable, Bool.true_and, JsonSource.areUsableMembers_iff,
      memberSources_eq_map]
    exact List.forall_mem_map.mpr fun member hMember => ⟨rfl, (h member hMember).isUsable⟩
  · rw [source, JsonSource.depth, Nat.add_le_add_iff_right, JsonSource.depthMembers_le_iff,
      memberSources_eq_map]
    exact List.forall_mem_map.mpr fun member hMember => (h member hMember).depth_le

end Json

end RemoteAttestation
