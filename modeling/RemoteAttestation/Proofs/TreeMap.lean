import Mathlib.Data.List.Induction
import Std.Data.ExtTreeMap

/-!
# Maps Filled from Lists

A map that is filled from a list holds the entries of the list, as long as no two of them
disagree about a key. The last entry for a key counts, so the induction takes entries off the
end of the list.

Where entries may disagree, they often come from sources that have an order of their own, such
as the names in a file. Then the map holds what the last source for a key denotes
(`DenotedLast`), and nothing has to be said of positions in a list.

## Main results

* `getElem?_foldl_insert_iff`: what a map holds when entries were put in.
* `getElem?_foldl_insert_eq_some_iff`: what a filled map holds.
* `foldl_insert_toList`: a map is filled from its own entries.
* `getElem?_foldl_insert_iff_denotedLast`: what a map holds when entries may disagree.
-/

namespace RemoteAttestation

variable {α β : Type} [Ord α] [Std.TransOrd α] [Std.LawfulEqOrd α]

/-- The entries of a list **agree** when no key has two values. -/
def Agree (l : List (α × β)) : Prop :=
  ∀ k v v', (k, v) ∈ l → (k, v') ∈ l → v = v'

/-- A map with the entries of a list **put in**, which agree, holds these, and for other keys
what it held before. -/
theorem getElem?_foldl_insert_iff {l : List (α × β)} (h : Agree l) (map : Std.ExtTreeMap α β)
    {k : α} {v : β} :
    (l.foldl (fun map entry => map.insert entry.1 entry.2) map)[k]? = some v ↔
      (k, v) ∈ l ∨ (∀ v', (k, v') ∉ l) ∧ map[k]? = some v := by
  induction l using List.reverseRecOn with
  | nil => simp
  | append_singleton l last ih =>
      obtain ⟨key, value⟩ := last
      have hInit : Agree l := fun k v v' hv hv' =>
        h k v v' (List.mem_append_left _ hv) (List.mem_append_left _ hv')
      rw [List.foldl_append, List.foldl_cons, List.foldl_nil, Std.ExtTreeMap.getElem?_insert]
      simp only [List.mem_append, List.mem_singleton, Prod.mk.injEq]
      by_cases hKey : key = k
      · subst hKey
        rw [if_pos Std.ReflCmp.compare_self, Option.some.injEq]
        constructor
        · rintro rfl
          exact .inl (.inr ⟨rfl, rfl⟩)
        · rintro ((hMem | ⟨-, rfl⟩) | ⟨hNone, -⟩)
          · exact h key value v (by simp) (List.mem_append_left _ hMem)
          · rfl
          · exact absurd (.inr ⟨rfl, rfl⟩) (hNone value)
      · rw [if_neg (mt Std.LawfulEqOrd.eq_of_compare hKey), ih hInit]
        simp [Ne.symm hKey]

/-- A map that is **filled** from a list whose entries agree holds just these entries. -/
theorem getElem?_foldl_insert_eq_some_iff {l : List (α × β)} (h : Agree l) {k : α} {v : β} :
    (l.foldl (fun map entry => map.insert entry.1 entry.2) (∅ : Std.ExtTreeMap α β))[k]? = some v ↔
      (k, v) ∈ l := by
  rw [getElem?_foldl_insert_iff h]
  simp

/-- The entries of a map agree. -/
theorem agree_toList (map : Std.ExtTreeMap α β) : Agree map.toList := by
  intro k v v' hv hv'
  rw [Std.ExtTreeMap.mem_toList_iff_getElem?_eq_some] at hv hv'
  exact Option.some.inj (hv.symm.trans hv')

/-- A map is **filled from its own entries**. -/
theorem foldl_insert_toList (map : Std.ExtTreeMap α β) :
    map.toList.foldl (fun map entry => map.insert entry.1 entry.2) ∅ = map := by
  refine Std.ExtTreeMap.ext_getElem? fun k => Option.ext fun v => ?_
  rw [getElem?_foldl_insert_eq_some_iff (agree_toList map),
    Std.ExtTreeMap.mem_toList_iff_getElem?_eq_some]

/-! ### Entries from ordered sources -/

section

variable {γ : Type} {before : γ → γ → Prop} {denotes : γ → α × β → Prop}

/-- The value that the **last** source for a key denotes. -/
def DenotedLast (before : γ → γ → Prop) (denotes : γ → α × β → Prop) (sources : List γ) (k : α)
    (v : β) : Prop :=
  ∃ source ∈ sources, denotes source (k, v) ∧
    ∀ other ∈ sources, ∀ v', denotes other (k, v') → ¬ before source other

omit [Ord α] [Std.TransOrd α] [Std.LawfulEqOrd α]

/-- Without sources nothing is denoted. -/
theorem not_denotedLast_nil {k : α} {v : β} : ¬ DenotedLast before denotes [] k v := by
  rintro ⟨source, hSource, -⟩
  cases hSource

/-- A source in front of others is the last for a key when none of the others denotes the
key. -/
theorem denotedLast_cons_iff (hAsymm : ∀ c c', before c c' → ¬ before c' c) {source : γ}
    {sources : List γ} (hFirst : ∀ other ∈ sources, before source other) {k : α} {v : β} :
    DenotedLast before denotes (source :: sources) k v ↔
      DenotedLast before denotes sources k v ∨
        (∀ other ∈ sources, ∀ v', ¬ denotes other (k, v')) ∧ denotes source (k, v) := by
  simp only [DenotedLast, List.forall_mem_cons]
  simp only [List.mem_cons, exists_eq_or_imp]
  constructor
  · rintro (⟨hDenotes, -, hLast⟩ | ⟨last, hMem, hDenotes, -, hLast⟩)
    · exact .inr ⟨fun other hOther v' h => hLast other hOther v' h (hFirst other hOther), hDenotes⟩
    · exact .inl ⟨last, hMem, hDenotes, hLast⟩
  · rintro (⟨last, hMem, hDenotes, hLast⟩ | ⟨hNone, hDenotes⟩)
    · exact .inr ⟨last, hMem, hDenotes, fun _ _ => hAsymm source last (hFirst last hMem), hLast⟩
    · exact .inl ⟨hDenotes, fun _ _ h => hAsymm source source h h,
        fun other hOther v' h => absurd h (hNone other hOther v')⟩

/-- Some source is the last for a key just when one denotes the key. -/
theorem exists_denotedLast_iff (hAsymm : ∀ c c', before c c' → ¬ before c' c) {sources : List γ}
    (hAscending : sources.Pairwise before) {k : α} :
    (∃ v, DenotedLast before denotes sources k v) ↔
      ∃ source ∈ sources, ∃ v, denotes source (k, v) := by
  induction hAscending with
  | nil => simp [not_denotedLast_nil]
  | @cons source sources hFirst _ ih =>
      simp only [denotedLast_cons_iff hAsymm hFirst, exists_or, ih, List.mem_cons, exists_eq_or_imp,
        exists_and_left]
      by_cases hLater : ∃ other ∈ sources, ∃ v, denotes other (k, v)
      · simp only [hLater, true_or, or_true]
      · have hNone : ∀ other ∈ sources, ∀ v, ¬ denotes other (k, v) := fun other hOther v h =>
          hLater ⟨other, hOther, v, h⟩
        simp only [hLater, false_or, or_false]
        exact ⟨And.right, fun h => ⟨hNone, h⟩⟩

end

/-- **The last source counts**: a map with entries put in, which come from ascending sources,
holds for a key what the last source for the key denotes, and for other keys what it held
before. -/
theorem getElem?_foldl_insert_iff_denotedLast {γ : Type} {before : γ → γ → Prop}
    {denotes : γ → α × β → Prop} (hAsymm : ∀ c c', before c c' → ¬ before c' c)
    (hUnique : ∀ c entry entry', denotes c entry → denotes c entry' → entry = entry')
    {sources : List γ} (hAscending : sources.Pairwise before) {l : List (α × β)}
    (h : List.Forall₂ denotes sources l) (map : Std.ExtTreeMap α β) {k : α} {v : β} :
    (l.foldl (fun map entry => map.insert entry.1 entry.2) map)[k]? = some v ↔
      DenotedLast before denotes sources k v ∨
        (∀ source ∈ sources, ∀ v', ¬ denotes source (k, v')) ∧ map[k]? = some v := by
  induction h generalizing map with
  | nil => simp [not_denotedLast_nil]
  | @cons source entry sources l hEntry _ ih =>
      obtain ⟨key, value⟩ := entry
      obtain ⟨hFirst, hAscending⟩ := List.pairwise_cons.mp hAscending
      rw [List.foldl_cons, ih hAscending, Std.ExtTreeMap.getElem?_insert,
        denotedLast_cons_iff hAsymm hFirst, List.forall_mem_cons]
      by_cases hKey : key = k
      · subst hKey
        have hOwn : denotes source (key, v) ↔ value = v :=
          ⟨fun h => (Prod.mk.inj (hUnique _ _ _ hEntry h)).2, fun h => h ▸ hEntry⟩
        have hSome : ¬ ∀ v', ¬ denotes source (key, v') := fun hNone => hNone value hEntry
        rw [if_pos Std.ReflCmp.compare_self, Option.some.injEq, hOwn]
        simp only [hSome, false_and, or_false]
      · have hOther : ∀ v', ¬ denotes source (k, v') := fun v' h =>
          hKey (Prod.mk.inj (hUnique _ _ _ hEntry h)).1
        rw [if_neg (mt Std.LawfulEqOrd.eq_of_compare hKey)]
        simp only [hOther, not_false_eq_true, implies_true, true_and, and_false, or_false]

end RemoteAttestation
