import Mathlib.Data.List.Forall2
import RemoteAttestation.Text.Numeral

/-!
# Numerals

What is read in a radix is what is written in it: some digits, which may have zeros and a plus
sign in front. Reading puts one digit behind another, so the total only grows, and a bound that
holds of the number holds all the way (`Numeral.readDigits_iff`). The digits in radix ten are
the decimal digits, and in radix sixteen there are the letters from `a` to `f` as well, in
either case.

## Main results

* `Numeral.read_iff`: the number that is read in any radix.
* `Numeral.digit?_sixteen_iff`: the hexadecimal digits.
* `Numeral.read_eq_ok_iff`: the number that is read is the one that is written in decimal.
* `Numeral.read_toDigits`, `Numeral.read_toString`: the digits of a number, read back.
* `Numeral.head?_toDigits`: only zero has a leading zero.
-/

namespace RemoteAttestation.Numeral

/-! ### Any radix -/

/-- The **total** that digits of a radix make behind a total. -/
def total (radix start : Nat) (digits : List Nat) : Nat :=
  digits.foldl (fun total digit => radix * total + digit) start

/-- Characters are the **digits** of a radix with these values, one by one. -/
def AreDigits (radix : Nat) : List Char → List Nat → Prop :=
  List.Forall₂ fun c digit => digit? radix c = some digit

variable {radix bound start n : Nat} {cs : List Char}

/-- More digits do not make less. -/
theorem le_total (hRadix : 0 < radix) (start : Nat) (digits : List Nat) :
    start ≤ total radix start digits := by
  induction digits generalizing start with
  | nil => exact Nat.le_refl start
  | cons digit digits ih =>
      refine Nat.le_trans ?_ (ih (radix * start + digit))
      exact Nat.le_trans (Nat.le_mul_of_pos_left start hRadix) (Nat.le_add_right _ digit)

/-- **Digits are read** when they are those of a number below the bound. A total that has
reached the bound does not come back below it. -/
theorem readDigits_iff (hRadix : 0 < radix) (hStart : start < bound) :
    readDigits radix bound start cs = .ok n ↔
      ∃ digits, AreDigits radix cs digits ∧ total radix start digits = n ∧ n < bound := by
  induction cs generalizing start with
  | nil =>
      rw [readDigits, Except.ok.injEq]
      constructor
      · rintro rfl
        exact ⟨[], .nil, rfl, hStart⟩
      · rintro ⟨_, ⟨⟩, rfl, -⟩
        rfl
  | cons c cs ih =>
      rw [readDigits]
      cases hDigit : digit? radix c with
      | none =>
          refine iff_of_false nofun ?_
          rintro ⟨_, hDigits, -⟩
          obtain ⟨digit, _, hFirst, -, -⟩ := List.forall₂_cons_left_iff.mp hDigits
          rw [hDigit] at hFirst
          cases hFirst
      | some digit =>
          have hCons : ∀ digits, AreDigits radix (c :: cs) digits ↔
              ∃ rest, AreDigits radix cs rest ∧ digits = digit :: rest := fun digits => by
            rw [AreDigits, List.forall₂_cons_left_iff, hDigit]
            simp only [Option.some.injEq, exists_and_left, exists_eq_left']
          simp only [hCons]
          by_cases hNext : radix * start + digit < bound
          · rw [if_pos hNext, ih hNext]
            constructor
            · rintro ⟨rest, hRest, hTotal, hLt⟩
              exact ⟨_, ⟨rest, hRest, rfl⟩, hTotal, hLt⟩
            · rintro ⟨_, ⟨rest, hRest, rfl⟩, hTotal, hLt⟩
              exact ⟨rest, hRest, hTotal, hLt⟩
          · rw [if_neg hNext]
            refine iff_of_false nofun ?_
            rintro ⟨_, ⟨rest, -, rfl⟩, rfl, hLt⟩
            exact hNext (Nat.lt_of_le_of_lt (le_total hRadix _ rest) hLt)

/-- A plus sign is no digit. -/
theorem digit?_plus (radix : Nat) : digit? radix '+' = none := rfl

/-- **What is read** in a radix: digits of a number below the bound, with a plus sign before
them or none. -/
theorem read_iff (hRadix : 0 < radix) (hBound : 0 < bound) :
    read radix bound cs = .ok n ↔
      ∃ digitChars digits, (cs = digitChars ∨ cs = '+' :: digitChars) ∧ digitChars ≠ [] ∧
        AreDigits radix digitChars digits ∧ total radix 0 digits = n ∧ n < bound := by
  constructor
  · intro h
    rw [read.eq_def] at h
    split at h
    · cases h
    · cases h
    · rename_i digitChars hNe
      obtain ⟨digits, hDigits⟩ := (readDigits_iff hRadix hBound).mp h
      exact ⟨digitChars, digits, .inr rfl, fun hNil => hNe (hNil ▸ rfl), hDigits⟩
    · rename_i hNil _ _
      obtain ⟨digits, hDigits⟩ := (readDigits_iff hRadix hBound).mp h
      exact ⟨cs, digits, .inl rfl, hNil, hDigits⟩
  · rintro ⟨digitChars, digits, hText, hNe, hDigits, hTotal⟩
    have hRead := (readDigits_iff hRadix hBound).mpr ⟨digits, hDigits, hTotal⟩
    cases digitChars with
    | nil => exact absurd rfl hNe
    | cons c rest =>
        have hPlus : c ≠ '+' := by
          rintro rfl
          obtain ⟨digit, _, hFirst, -, -⟩ := List.forall₂_cons_left_iff.mp hDigits
          rw [digit?_plus] at hFirst
          cases hFirst
        rcases hText with rfl | rfl
        · rw [read]
          · exact hRead
          all_goals simp [hPlus]
        · rw [read]
          · exact hRead
          · simp

/-! ### Hexadecimal digits -/

/-- A character is the **hexadecimal digit** of a number below sixteen, in either case. -/
def HexDigit (c : Char) (digit : Nat) : Prop :=
  digit < 16 ∧ (c = Nat.digitChar digit ∨ c = (Nat.digitChar digit).toUpper)

/-- The digits among the first characters. -/
theorem digit?_sixteen_ofNat :
    ∀ code < 128, ∀ digit < 16, digit? 16 (Char.ofNat code) = some digit →
      Char.ofNat code = Nat.digitChar digit ∨
        Char.ofNat code = (Nat.digitChar digit).toUpper := by
  decide +kernel

/-- **The digits in radix sixteen** are the hexadecimal digits. -/
theorem digit?_sixteen_iff {c : Char} {digit : Nat} :
    digit? 16 c = some digit ↔ HexDigit c digit := by
  constructor
  · intro h
    obtain ⟨hValue, hLt⟩ := Option.filter_eq_some_iff.mp h
    have hCode : c.toNat < 128 := by
      have hUpTo : ∀ {last : Char}, last.toNat < 128 → c ≤ last → c.toNat < 128 :=
        fun hLast hLe => Nat.lt_of_le_of_lt (UInt32.le_iff_toNat_le.mp hLe) hLast
      split at hValue
      · rename_i hRange
        exact hUpTo (by decide) hRange.2
      · split at hValue
        · rename_i hRange
          exact hUpTo (by decide) hRange.2
        · split at hValue
          · rename_i hRange
            exact hUpTo (by decide) hRange.2
          · cases hValue
    refine ⟨of_decide_eq_true hLt, ?_⟩
    have hDigits := digit?_sixteen_ofNat c.toNat hCode digit (of_decide_eq_true hLt)
    rw [Char.ofNat_toNat] at hDigits
    exact hDigits h
  · rintro ⟨hLt, hChar⟩
    have hBoth : ∀ digit < 16, digit? 16 (Nat.digitChar digit) = some digit ∧
        digit? 16 (Nat.digitChar digit).toUpper = some digit := by decide
    rcases hChar with rfl | rfl
    · exact (hBoth digit hLt).1
    · exact (hBoth digit hLt).2

/-! ### Decimal digits -/

/-- A decimal digit is a digit in radix ten. -/
theorem digit?_of_isDigit {c : Char} (h : c.isDigit = true) :
    digit? 10 c = some (c.toNat - '0'.toNat) := by
  obtain ⟨hLower, hUpper⟩ : '0' ≤ c ∧ c ≤ '9' := by
    rw [Char.isDigit, Bool.and_eq_true, decide_eq_true_eq, decide_eq_true_eq] at h
    exact h
  have hUpper' : c.toNat ≤ 57 := hUpper
  have hLt : c.toNat - 48 < 10 := by omega
  rw [digit?, if_pos ⟨hLower, hUpper⟩]
  simp [hLt]

/-- Only the decimal digits are digits in radix ten: the letters stand for ten and more. -/
theorem digit?_eq_some_iff {c : Char} {n : Nat} :
    digit? 10 c = some n ↔ c.isDigit = true ∧ n = c.toNat - '0'.toNat := by
  constructor
  · intro h
    have hDigit : c.isDigit = true := by
      obtain ⟨hValue, hLt⟩ := Option.filter_eq_some_iff.mp h
      rw [decide_eq_true_eq] at hLt
      split at hValue
      · rename_i hRange
        exact Bool.and_eq_true_iff.mpr ⟨decide_eq_true hRange.1, decide_eq_true hRange.2⟩
      · split at hValue
        · obtain rfl := Option.some.inj hValue
          omega
        · split at hValue
          · obtain rfl := Option.some.inj hValue
            omega
          · cases hValue
    rw [digit?_of_isDigit hDigit] at h
    exact ⟨hDigit, (Option.some.inj h).symm⟩
  · rintro ⟨hDigit, rfl⟩
    exact digit?_of_isDigit hDigit

/-- More digits never make a number smaller. -/
theorem le_ofDigitChars (cs : List Char) (total : Nat) : total ≤ Nat.ofDigitChars 10 cs total := by
  induction cs generalizing total with
  | nil => simp
  | cons c cs ih =>
      rw [Nat.ofDigitChars_cons]
      exact Nat.le_trans (by omega) (ih _)

/-- The characters that are digits in radix ten are **decimal digits**, and make the number
that they denote in decimal. -/
theorem exists_areDigits_ten_iff {cs : List Char} {n : Nat} :
    (∃ digits, AreDigits 10 cs digits ∧ total 10 0 digits = n) ↔
      (∀ c ∈ cs, c.isDigit = true) ∧ Nat.ofDigitChars 10 cs 0 = n := by
  have hDigits : ∀ digits, AreDigits 10 cs digits ↔
      (∀ c ∈ cs, c.isDigit = true) ∧ digits = cs.map fun c => c.toNat - '0'.toNat := by
    intro digits
    simp only [AreDigits, digit?_eq_some_iff, List.forall₂_and_left, eq_comm (a := digits)]
    rw [← List.forall₂_eq_eq_eq, List.forall₂_map_left_iff]
    simp only [eq_comm]
  simp only [hDigits]
  constructor
  · rintro ⟨_, ⟨hAll, rfl⟩, rfl⟩
    refine ⟨hAll, ?_⟩
    rw [total, List.foldl_map]
    rfl
  · rintro ⟨hAll, rfl⟩
    refine ⟨_, ⟨hAll, rfl⟩, ?_⟩
    rw [total, List.foldl_map]
    rfl

/-! ### Written numbers -/

/-- A text **writes** a number in decimal: it is some digits, with a plus sign before them or
none. -/
def Writes (cs : List Char) (n : Nat) : Prop :=
  ∃ digits : List Char, (cs = digits ∨ cs = '+' :: digits) ∧ digits ≠ [] ∧
    (∀ c ∈ digits, c.isDigit = true) ∧ Nat.ofDigitChars 10 digits 0 = n

/-- **What is read** is what a text writes, if that is below the bound. -/
theorem read_eq_ok_iff {bound n : Nat} {cs : List Char} (hBound : 0 < bound) :
    read 10 bound cs = .ok n ↔ Writes cs n ∧ n < bound := by
  rw [read_iff (by decide) hBound]
  constructor
  · rintro ⟨digitChars, digits, hText, hNe, hDigits, hTotal, hLt⟩
    exact ⟨⟨digitChars, hText, hNe, exists_areDigits_ten_iff.mp ⟨digits, hDigits, hTotal⟩⟩, hLt⟩
  · rintro ⟨⟨digitChars, hText, hNe, hAll⟩, hLt⟩
    obtain ⟨digits, hDigits, hTotal⟩ := exists_areDigits_ten_iff.mpr hAll
    exact ⟨digitChars, digits, hText, hNe, hDigits, hTotal, hLt⟩

/-- A text writes **one** number. -/
theorem Writes.unique {cs : List Char} {n n' : Nat} (h : Writes cs n) (h' : Writes cs n') :
    n = n' := by
  have hRead := (read_eq_ok_iff (Nat.succ_pos _)).mpr
    ⟨h, Nat.lt_succ_of_le (Nat.le_max_left n n')⟩
  have hRead' := (read_eq_ok_iff (Nat.succ_pos _)).mpr
    ⟨h', Nat.lt_succ_of_le (Nat.le_max_right n n')⟩
  exact Except.ok.inj (hRead.symm.trans hRead')

/-! ### The digits of a number -/

/-- The digits of a number are decimal digits. -/
theorem isDigit_of_mem_toDigits {n : Nat} {c : Char} (h : c ∈ Nat.toDigits 10 n) :
    c.isDigit = true :=
  Nat.isDigit_of_mem_toDigits (by decide) (by decide) h

/-- A number is **written** by its digits. -/
theorem writes_toDigits (n : Nat) : Writes (Nat.toDigits 10 n) n :=
  ⟨_, .inl rfl, Nat.toDigits_ne_nil, fun _ => isDigit_of_mem_toDigits,
    Nat.ofDigitChars_ten_toDigits⟩

/-- **The digits of a number** are read back. -/
theorem read_toDigits {n bound : Nat} (h : n < bound) :
    read 10 bound (Nat.toDigits 10 n) = .ok n :=
  (read_eq_ok_iff (Nat.zero_lt_of_lt h)).mpr ⟨writes_toDigits n, h⟩

/-- A number is read back from its text, if it is below the bound. -/
theorem read_toString {n bound : Nat} (h : n < bound) :
    read 10 bound (toString n).toList = .ok n := by
  rw [Nat.toString_eq_ofList_toDigits, String.toList_ofList]
  exact read_toDigits h

/-- Only zero has a **leading zero**. -/
theorem head?_toDigits {n : Nat} (h : (Nat.toDigits 10 n).head? = some '0') : n = 0 := by
  induction n using Nat.strongRecOn with
  | ind n ih =>
      rcases Nat.lt_or_ge n 10 with hLt | hGe
      · rw [Nat.toDigits_of_lt_base hLt, List.head?_cons, Option.some.injEq,
          Nat.digitChar_eq_zero] at h
        exact h
      · rw [Nat.toDigits_of_base_le (by decide) hGe, List.head?_append] at h
        have hTens : (Nat.toDigits 10 (n / 10)).head? = some '0' := by
          cases hDigits : Nat.toDigits 10 (n / 10) with
          | nil => exact absurd hDigits Nat.toDigits_ne_nil
          | cons c cs => rwa [hDigits] at h
        have := ih (n / 10) (by omega) hTens
        omega

end RemoteAttestation.Numeral
