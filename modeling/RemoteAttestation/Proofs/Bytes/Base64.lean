import RemoteAttestation.Bytes.Base64
import RemoteAttestation.Proofs.Bytes.Integer
import RemoteAttestation.Text.Blank

/-!
# Written Base64

What is written in Base64 is read back. Three octets are one number, and so are the four
characters that they are written with: each character is one digit of the number to the base
sixty-four. At the end, one or two octets are moved up until their number fills whole digits.

No character that is written is white space or a hyphen, so the written text may be broken into
lines and set off by blanks, and is never taken for the marker of a block.

## Main results

* `Base64.decode_encode`: what is written is read back.
* `Base64.isBlank_of_mem_encode`, `Base64.ne_hyphen_of_mem_encode`: what is never written.
-/

namespace RemoteAttestation.Base64

/-! ### Digits -/

/-- From 63 on, the digit is the last one of the alphabet. -/
theorem digit_of_le {n : Nat} (h : 63 ≤ n) : digit n = '/' := by
  have hUpper : ¬ n < 26 := by omega
  have hLower : ¬ n < 52 := by omega
  have hNumber : ¬ n < 62 := by omega
  have hPlus : n ≠ 62 := by omega
  simp [digit, hUpper, hLower, hNumber, hPlus]

/-- What holds of the 64 characters of the alphabet holds of every digit. -/
theorem digit_induction {P : Char → Prop} (h : ∀ n < 64, P (digit n)) (n : Nat) : P (digit n) := by
  rcases Nat.lt_or_ge n 64 with hLt | hGe
  · exact h n hLt
  · have hLast := h 63 (by omega)
    rw [digit_of_le (Nat.le_refl 63)] at hLast
    rwa [digit_of_le (by omega)]

/-- No digit is the padding. -/
theorem digit_ne_pad (n : Nat) : digit n ≠ '=' :=
  digit_induction (P := fun c => c ≠ '=') (by decide) n

theorem digit_ne_hyphen (n : Nat) : digit n ≠ '-' :=
  digit_induction (P := fun c => c ≠ '-') (by decide) n

/-- No digit is white space, so trimming leaves digits alone. -/
theorem isBlank_digit (n : Nat) : Text.isBlank (digit n) = false :=
  digit_induction (P := fun c => Text.isBlank c = false) (by decide) n

/-- A digit is read as its number. -/
theorem digit?_digit {n : Nat} (h : n < 64) : digit? (digit n) = some n := by
  revert n
  decide

/-- The number that some digits denote, behind a number that was read before. -/
theorem foldlM_digits {ns : List Nat} (h : ∀ n ∈ ns, n < 64) (total : Nat) :
    (ns.map digit).foldlM (fun total c => (digit? c).map (64 * total + ·)) total =
      some (ns.foldl (fun total n => 64 * total + n) total) := by
  induction ns generalizing total with
  | nil => rfl
  | cons n ns ih =>
      obtain ⟨hFirst, hRest⟩ := List.forall_mem_cons.mp h
      rw [List.map_cons, List.foldlM_cons, digit?_digit hFirst, List.foldl_cons, ← ih hRest]
      rfl

/-- Digits are read as the number that has them to the base sixty-four. -/
theorem sextets?_digits (ns : List Nat) {number : Nat} (h : ∀ n ∈ ns, n < 64)
    (hNumber : ns.foldl (fun total n => 64 * total + n) 0 = number) :
    sextets? (ns.map digit) = some number :=
  hNumber ▸ foldlM_digits h 0

/-! ### Reading what is written -/

/-- Four digits without padding are three octets, and the rest is decoded by itself. -/
theorem decode_quad {a b c d : Char} (h : d ≠ '=') (rest : List Char) :
    decode (a :: b :: c :: d :: rest) =
      (sextets? [a, b, c, d]).bind fun n =>
        (decode rest).map fun octets => Bytes.ofNat 3 n ++ octets := by
  rw [decode]
  · cases sextets? [a, b, c, d] <;> cases decode rest <;> rfl
  · intro _ hPad
    exact absurd hPad h
  · intro hPad
    exact absurd hPad h

/-- Three digits with padding behind them are two octets, and they end the text. -/
theorem decode_triple {a b c : Char} (h : c ≠ '=') :
    decode [a, b, c, '='] =
      (sextets? [a, b, c]).bind fun n =>
        if n % 4 = 0 then some (Bytes.ofNat 2 (n / 4)) else none := by
  rw [decode]
  · rfl
  · intro hPad
    exact absurd hPad h

/-- **What is written in Base64 is read back.** -/
theorem decode_encode : (b : Bytes) → decode (encode b) = some b
  | x :: y :: z :: rest => by
      have hNumber := Bytes.ofNat_value [x, y, z]
      have hLt := Bytes.value_lt [x, y, z]
      rw [encode, decode_quad (digit_ne_pad _), decode_encode rest]
      generalize Bytes.value [x, y, z] = n at hNumber hLt
      have hDigits : sextets? [digit (n / 64 / 64 / 64), digit (n / 64 / 64 % 64),
          digit (n / 64 % 64), digit (n % 64)] = some n := by
        refine sextets?_digits [n / 64 / 64 / 64, n / 64 / 64 % 64, n / 64 % 64, n % 64] ?_ ?_
        · simp at hLt ⊢
          omega
        · simp only [List.foldl_cons, List.foldl_nil]
          omega
      rw [hDigits, Option.bind_some, Option.map_some]
      exact congrArg some (congrArg (· ++ rest) hNumber)
  | [x, y] => by
      have hNumber := Bytes.ofNat_value [x, y]
      have hLt := Bytes.value_lt [x, y]
      rw [encode, decode_triple (digit_ne_pad _)]
      generalize Bytes.value [x, y] = n at hNumber hLt
      have hDigits : sextets? [digit (4 * n / 64 / 64), digit (4 * n / 64 % 64),
          digit (4 * n % 64)] = some (4 * n) := by
        refine sextets?_digits [4 * n / 64 / 64, 4 * n / 64 % 64, 4 * n % 64] ?_ ?_
        · simp at hLt ⊢
          omega
        · simp only [List.foldl_cons, List.foldl_nil]
          omega
      rw [hDigits, Option.bind_some, if_pos (by omega), Nat.mul_div_cancel_left _ (by omega)]
      exact congrArg some hNumber
  | [x] => by
      have hNumber := Bytes.ofNat_value [x]
      have hLt : x.toNat < 256 := x.toNat_lt
      have hDigits : sextets? [digit (16 * x.toNat / 64), digit (16 * x.toNat % 64)] =
          some (16 * x.toNat) := by
        refine sextets?_digits [16 * x.toNat / 64, 16 * x.toNat % 64] ?_ ?_
        · simp
          omega
        · simp only [List.foldl_cons, List.foldl_nil]
          omega
      have hValue : Bytes.value [x] = x.toNat := by simp [Bytes.value]
      rw [encode, decode, hDigits]
      change (if 16 * x.toNat % 16 = 0 then some (Bytes.ofNat 1 (16 * x.toNat / 16)) else none) = _
      rw [if_pos (by omega), Nat.mul_div_cancel_left _ (by omega), ← hValue]
      exact congrArg some hNumber
  | [] => rfl

/-! ### Characters that are written -/

/-- What holds of every digit and of the padding holds of **all that is written**. -/
theorem of_mem_encode {P : Char → Prop} (hDigit : ∀ n, P (digit n)) (hPad : P '=') :
    (b : Bytes) → ∀ c ∈ encode b, P c
  | x :: y :: z :: rest => by
      have hRest := of_mem_encode hDigit hPad rest
      simp only [encode, List.forall_mem_cons]
      exact ⟨hDigit _, hDigit _, hDigit _, hDigit _, hRest⟩
  | [x, y] => by
      simp only [encode, List.forall_mem_cons]
      exact ⟨hDigit _, hDigit _, hDigit _, hPad, nofun⟩
  | [x] => by
      simp only [encode, List.forall_mem_cons]
      exact ⟨hDigit _, hDigit _, hPad, hPad, nofun⟩
  | [] => nofun

/-- Nothing that is written is **white space**. -/
theorem isBlank_of_mem_encode {b : Bytes} {c : Char} (h : c ∈ encode b) :
    Text.isBlank c = false :=
  of_mem_encode (P := fun c => Text.isBlank c = false) isBlank_digit (by decide) b c h

/-- Nothing that is written is a **hyphen**. -/
theorem ne_hyphen_of_mem_encode {b : Bytes} {c : Char} (h : c ∈ encode b) : c ≠ '-' :=
  of_mem_encode (P := fun c => c ≠ '-') digit_ne_hyphen (by decide) b c h

end RemoteAttestation.Base64
