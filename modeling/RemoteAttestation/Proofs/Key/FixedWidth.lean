import RemoteAttestation.Key.Basic
import RemoteAttestation.Proofs.Bytes.Width

/-!
# Integers in the Width They Should Have

The integers of a signature and the coordinates of a point come in any width, with zeros in
front or without, and are needed in the width of the curve. A number below `256 ^ width` has
one string of that width, and `Bytes.fit` gives this string and no other, whatever string the
number came in. So what comes out is a normal form: it has the number of what went in, it is
left alone when it is put in again, and two strings have the same one just when they denote the
same number.

## Main results

* `Bytes.fit_eq`, `Bytes.fit_both`: the result as one of the number.
* `Bytes.fit_eq_ok_iff`, `Bytes.fit_eq_error_iff`: what comes out, and what does not fit.
* `Bytes.fit_normal_form`: the string of a width is a normal form of the number.
-/

namespace RemoteAttestation.Bytes

variable {width : Nat} {b b' out : Bytes}

/-- The **string of another width**, or how far the number is from fitting. -/
theorem fit_eq (width : Nat) (b : Bytes) :
    fit width b =
      if b.value < 256 ^ width then .ok (ofNat width b.value)
      else .error ⟨Arithmetic.octetLength b.value, width⟩ := by
  rw [fit, fit?_eq, length_significant]
  by_cases hLt : b.value < 256 ^ width
  · simp only [if_pos hLt]
  · simp only [if_neg hLt]

/-- **Two integers of one width**: what is made of them depends on their numbers alone, and so
does the fault of the first that does not fit. -/
theorem fit_both {ε β : Type} (width : Nat) (a b : Bytes) (fault : OversizedInteger → ε)
    (next : Bytes → Bytes → Except ε β) :
    (do
      let a ← (fit width a).mapError fault
      let b ← (fit width b).mapError fault
      next a b) =
      if 256 ^ width ≤ a.value then .error (fault ⟨Arithmetic.octetLength a.value, width⟩)
      else if 256 ^ width ≤ b.value then .error (fault ⟨Arithmetic.octetLength b.value, width⟩)
      else next (ofNat width a.value) (ofNat width b.value) := by
  simp only [fit_eq, ← Nat.not_lt, ite_not]
  by_cases ha : a.value < 256 ^ width
  · by_cases hb : b.value < 256 ^ width
    · simp only [if_pos ha, if_pos hb]
      rfl
    · simp only [if_pos ha, if_neg hb]
      rfl
  · simp only [if_neg ha]
    rfl

/-- **What comes out** is the one string of the width that denotes the number. -/
theorem fit_eq_ok_iff : fit width b = .ok out ↔ out.length = width ∧ out.value = b.value := by
  rw [fit_eq]
  constructor
  · intro h
    split_ifs at h with hLt
    obtain rfl := Except.ok.inj h
    exact ⟨length_ofNat _ _, value_ofNat_of_lt hLt⟩
  · rintro ⟨rfl, hValue⟩
    have hLt := value_lt out
    rw [hValue] at hLt
    rw [if_pos hLt, ← hValue, ofNat_value]

/-- **What does not fit** is a number that needs more octets. -/
theorem fit_eq_error_iff {fault : OversizedInteger} : fit width b = .error fault ↔
    256 ^ width ≤ b.value ∧ fault = ⟨b.significant.length, width⟩ := by
  rw [fit_eq, length_significant]
  split_ifs with hLt
  · simp [Nat.not_le.mpr hLt]
  · simp [Nat.not_lt.mp hLt, eq_comm]

/-- A number fits into some octets when they have room for it, **however it was written**. -/
theorem exists_fit_eq_ok_iff : (∃ out, fit width b = .ok out) ↔ b.value < 256 ^ width := by
  rw [fit_eq]
  split_ifs with hLt
  · exact iff_of_true ⟨_, rfl⟩ hLt
  · exact iff_of_false nofun hLt

/-- Only the **number** counts. -/
theorem fit_congr (h : b'.value = b.value) : fit width b' = fit width b := by
  rw [fit_eq, fit_eq, h]

/-- The octets without the zeros in front have room in the width, and **zeros fill the room**
that they leave. -/
theorem exists_zeros_of_fit (h : fit width b = .ok out) : ∃ n, n + b.significant.length = width ∧
    out = List.replicate n 0 ++ b.significant := by
  simp only [fit, fit?] at h
  split_ifs at h with hRoom
  obtain rfl := Except.ok.inj h
  exact ⟨_, Nat.sub_add_cancel hRoom, rfl⟩

/-- **The string of a width is a normal form of the number.** It is there just when the number
is below `256 ^ width`, it is then the one string of the width that denotes the number, and
otherwise the fault says how many octets the number needs. It is left alone when it is put in
again. Strings of one number have the same, so zeros in front make no difference. It is made of
the octets without those zeros, which are then no more than the width, and of as many zeros as
are missing. -/
theorem fit_normal_form (width : Nat) (b : Bytes) :
    ((∃ out, fit width b = .ok out) ↔ b.value < 256 ^ width) ∧
    (∀ out, fit width b = .ok out ↔ out.length = width ∧ out.value = b.value) ∧
    (∀ fault, fit width b = .error fault ↔
      256 ^ width ≤ b.value ∧ fault = ⟨b.significant.length, width⟩) ∧
    (fit width b >>= fit width) = fit width b ∧
    (∀ b' : Bytes, b'.value = b.value → fit width b' = fit width b) ∧
    (∀ n, fit width (List.replicate n 0 ++ b) = fit width b) ∧
    ∀ out, fit width b = .ok out → ∃ n, n + b.significant.length = width ∧
      out = List.replicate n 0 ++ b.significant := by
  refine ⟨exists_fit_eq_ok_iff, fun out => fit_eq_ok_iff, fun fault => fit_eq_error_iff, ?_,
    fun b' => fit_congr, fun n => fit_congr ?_, fun out => exists_zeros_of_fit⟩
  · cases hFit : fit width b with
    | ok out => exact (fit_congr (fit_eq_ok_iff.mp hFit).2).trans hFit
    | error fault => rfl
  · rw [value_append, value_replicate_zero, Nat.zero_mul, Nat.zero_add]

/-- Two octets in the width of four, one with zeros in front in the width of two, and three
octets that have no room there. -/
theorem fit_normal_form_of_three_integers :
    fit 4 [1, 2] = .ok [0, 0, 1, 2] ∧ fit 2 [0, 0, 1] = fit 2 [1] ∧
      fit 2 [1, 2, 3] = .error ⟨3, 2⟩ := by
  obtain ⟨-, hFits, -⟩ := fit_normal_form 4 [1, 2]
  obtain ⟨-, -, -, -, hSame, -⟩ := fit_normal_form 2 [1]
  obtain ⟨-, -, hFault, -⟩ := fit_normal_form 2 [1, 2, 3]
  exact ⟨(hFits _).mpr (by decide), hSame _ (by decide), (hFault _).mpr (by decide)⟩

end RemoteAttestation.Bytes
