import Mathlib.Data.List.Forall2

/-!
# Results That May Be Faults

When a computation that may fail with a fault succeeds, so do its parts, and when it fails, so
does one of them. Everything that is read or checked here gives an `Except`, and these
equivalences take such a result apart.

## Main results

* `bind_eq_ok_iff`, `map_eq_ok_iff`, `mapError_eq_ok_iff`: success of a compound computation.
* `mapM_eq_ok_iff`, `mem_of_mapM_eq_ok`: success for each item of a list, and what it gives.
* `exists_of_mapM_eq_error`: failure for one of the items.
-/

namespace RemoteAttestation

variable {ε ε' α β : Type}

/-- Two steps **succeed** when the first does, and the second with what it gives. -/
theorem bind_eq_ok_iff {x : Except ε α} {f : α → Except ε β} {b : β} :
    x >>= f = .ok b ↔ ∃ a, x = .ok a ∧ f a = .ok b := by
  cases x with
  | ok a =>
      simp only [Except.ok.injEq, exists_eq_left']
      rfl
  | error fault =>
      simp only [reduceCtorEq, false_and, exists_false, iff_false]
      exact nofun

/-- What is made of a result is a result just when that is. -/
theorem map_eq_ok_iff {x : Except ε α} {f : α → β} {b : β} :
    f <$> x = .ok b ↔ ∃ a, x = .ok a ∧ f a = b := by
  cases x with
  | ok a =>
      simp only [Except.ok.injEq, exists_eq_left']
      exact ⟨Except.ok.inj, congrArg Except.ok⟩
  | error fault =>
      simp only [reduceCtorEq, false_and, exists_false, iff_false]
      exact nofun

/-- A result is there when it is some value. -/
theorem isOk_iff_exists {x : Except ε α} : x.isOk = true ↔ ∃ a, x = .ok a := by
  cases x with
  | ok a => exact iff_of_true rfl ⟨a, rfl⟩
  | error fault => exact iff_of_false nofun nofun

/-- A result has no fault to put in another form. -/
@[simp] theorem mapError_ok (f : ε → ε') (a : α) :
    (Except.ok a : Except ε α).mapError f = .ok a := rfl

@[simp] theorem mapError_error (f : ε → ε') (fault : ε) :
    (Except.error fault : Except ε α).mapError f = .error (f fault) := rfl

/-- The form of the fault does not matter to the result. -/
theorem mapError_eq_ok_iff {x : Except ε α} {f : ε → ε'} {a : α} :
    x.mapError f = .ok a ↔ x = .ok a := by
  cases x with
  | ok a => rw [mapError_ok, Except.ok.injEq, Except.ok.injEq]
  | error fault => rw [mapError_error]; simp only [reduceCtorEq]

/-- A fault in another form comes from a fault. -/
theorem mapError_eq_error_iff {x : Except ε α} {f : ε → ε'} {fault : ε'} :
    x.mapError f = .error fault ↔ ∃ cause, x = .error cause ∧ f cause = fault := by
  cases x with
  | ok a => rw [mapError_ok]; simp only [reduceCtorEq, false_and, exists_false]
  | error cause => simp only [mapError_error, Except.error.injEq, exists_eq_left']

/-- Two steps **fail** when the first does, or else the second with what the first gives. -/
theorem bind_eq_error_iff {x : Except ε α} {f : α → Except ε β} {fault : ε} :
    x >>= f = .error fault ↔ x = .error fault ∨ ∃ a, x = .ok a ∧ f a = .error fault := by
  cases x with
  | ok a =>
      simp only [reduceCtorEq, false_or, Except.ok.injEq, exists_eq_left']
      rfl
  | error other =>
      simp only [Except.error.injEq, reduceCtorEq, false_and, exists_false, or_false]
      exact ⟨Except.error.inj, congrArg Except.error⟩

/-! ### Lists -/

/-- An item of a list belongs to one of the other list. -/
theorem exists_of_mem_of_forall₂ {R : α → β → Prop} {l : List α} {ys : List β}
    (h : List.Forall₂ R l ys) {x : α} (hx : x ∈ l) : ∃ y ∈ ys, R x y := by
  induction h with
  | nil => cases hx
  | cons hy _ ih =>
      rcases List.mem_cons.mp hx with rfl | hRest
      · exact ⟨_, List.mem_cons_self, hy⟩
      · obtain ⟨y, hMem, hRel⟩ := ih hRest
        exact ⟨y, List.mem_cons_of_mem _ hMem, hRel⟩

/-- What each step of a fold preserves, the fold preserves. -/
theorem of_foldlM_eq_ok {f : β → α → Except ε β} {P : β → Prop}
    (hStep : ∀ {b b' : β} {a : α}, P b → f b a = .ok b' → P b') {l : List α} {start last : β}
    (hStart : P start) (h : l.foldlM f start = .ok last) : P last := by
  induction l generalizing start with
  | nil =>
      obtain rfl := Except.ok.inj h
      exact hStart
  | cons a l ih =>
      rw [List.foldlM_cons] at h
      obtain ⟨next, hNext, hRest⟩ := bind_eq_ok_iff.mp h
      exact ih (hStep hStart hNext) hRest

/-- A list is computed when each of its items is. -/
theorem mapM_eq_ok_iff {f : α → Except ε β} {l : List α} {ys : List β} :
    l.mapM f = .ok ys ↔ List.Forall₂ (fun x y => f x = .ok y) l ys := by
  induction l generalizing ys with
  | nil =>
      rw [List.mapM_nil, List.forall₂_nil_left_iff]
      exact ⟨fun h => (Except.ok.inj h).symm, fun h => congrArg Except.ok h.symm⟩
  | cons x l ih =>
      rw [List.mapM_cons, bind_eq_ok_iff]
      constructor
      · rintro ⟨y, hy, h⟩
        obtain ⟨rest, hRest, h⟩ := bind_eq_ok_iff.mp h
        obtain rfl := Except.ok.inj h
        exact .cons hy (ih.mp hRest)
      · intro h
        cases h with
        | cons hy hRest => exact ⟨_, hy, bind_eq_ok_iff.mpr ⟨_, ih.mpr hRest, rfl⟩⟩

/-- A list is computed if each of its items can be, and holds what they give. -/
theorem exists_mapM_eq_ok {f : α → Except ε β} {l : List α} (h : ∀ x ∈ l, ∃ y, f x = .ok y) :
    ∃ ys, l.mapM f = .ok ys := by
  induction l with
  | nil => exact ⟨[], rfl⟩
  | cons x l ih =>
      obtain ⟨⟨y, hy⟩, hRest⟩ := List.forall_mem_cons.mp h
      obtain ⟨ys, hys⟩ := ih hRest
      exact ⟨y :: ys, mapM_eq_ok_iff.mpr (.cons hy (mapM_eq_ok_iff.mp hys))⟩

/-- The fault of a list is that of one of its items. -/
theorem exists_of_mapM_eq_error {f : α → Except ε β} {l : List α} {fault : ε}
    (h : l.mapM f = .error fault) : ∃ x ∈ l, f x = .error fault := by
  induction l with
  | nil => cases h
  | cons x l ih =>
      rw [List.mapM_cons] at h
      obtain hFirst | ⟨y, -, h⟩ := bind_eq_error_iff.mp h
      · exact ⟨x, List.mem_cons_self, hFirst⟩
      · obtain hRest | ⟨ys, -, h⟩ := bind_eq_error_iff.mp h
        · obtain ⟨other, hOther, hFault⟩ := ih hRest
          exact ⟨other, List.mem_cons_of_mem _ hOther, hFault⟩
        · cases h

/-- Each item of a list that is computed is computed. -/
theorem exists_eq_ok_of_mapM_eq_ok {f : α → Except ε β} {l : List α} {ys : List β}
    (h : l.mapM f = .ok ys) {x : α} (hx : x ∈ l) : ∃ y, f x = .ok y := by
  obtain ⟨y, -, hy⟩ := exists_of_mem_of_forall₂ (mapM_eq_ok_iff.mp h) hx
  exact ⟨y, hy⟩

/-- The results of a list are the results of its items. -/
theorem mem_of_mapM_eq_ok {f : α → Except ε β} {l : List α} {ys : List β} (h : l.mapM f = .ok ys)
    {y : β} : y ∈ ys ↔ ∃ x ∈ l, f x = .ok y := by
  have hForall := mapM_eq_ok_iff.mp h
  clear h
  induction hForall with
  | nil => simp
  | @cons x z l ys hz _ ih =>
      simp only [List.mem_cons, exists_eq_or_imp, hz, Except.ok.injEq, ih]
      exact or_congr_left eq_comm

end RemoteAttestation
