import Mathlib.Data.List.TakeDrop
import RemoteAttestation.Json.Basic
import RemoteAttestation.Json.Source
import RemoteAttestation.Proofs.Text.Numeral

/-!
# Written Strings and Numbers

A text is written as a JSON string by escaping its characters one by one, and the string is
read back the same way: each escaped character gives one part (`JsonSource.pieceOf`). The parts
are then joined. A written part that stands for a number is that of a control character, never
half of a surrogate pair, so no part is joined with another.

## Main results

* `JsonSource.readString?_quote`: a quoted text is read back.
* `JsonSource.readScalar_number`, `JsonSource.readScalar_bool`: so are numbers and truth values.
-/

namespace RemoteAttestation.JsonSource

/-! ### Strings -/

/-- The **part** of a string that a written character gives: a control character without a
letter of its own is written by its number. -/
def pieceOf (c : Char) : Piece :=
  if c.toNat < 0x20 ∧ c ∉ ['\x08', '\x0c', '\n', '\r', '\t'] then .unit c.toNat else .char c

/-- Two zeros and the two digits of an octet are the number of the octet. -/
theorem fourDigits?_octetDigits {n : Nat} (h : n < 0x20) :
    fourDigits? '0' '0' (Hex.digit (n / 16)) (Hex.digit (n % 16)) = some n := by
  revert n
  decide

/-- The parts of a string with one more in front. -/
def putPiece (piece : Piece) (parts : List Piece × List Char) : List Piece × List Char :=
  (piece :: parts.1, parts.2)

/-- Four digits behind an escape are a unit of the string. -/
theorem readPieces?_unit {a b c d : Char} {n : Nat} (h : fourDigits? a b c d = some n)
    (text : List Char) :
    readPieces? ('\\' :: 'u' :: a :: b :: c :: d :: text) =
      (readPieces? text).map (putPiece (.unit n)) := by
  rw [readPieces?, h]
  cases readPieces? text with
  | none => rfl
  | some parts => rfl

/-- A letter behind an escape is the character that it stands for. -/
theorem readPieces?_escaped {c x : Char} (h : escaped? c = some x) (text : List Char) :
    readPieces? ('\\' :: c :: text) = (readPieces? text).map (putPiece (.char x)) := by
  rw [readPieces?, h]
  · cases readPieces? text with
    | none => rfl
    | some parts => rfl
  · rintro _ _ _ _ _ rfl
    cases h

/-- A character that needs no escape stands for itself. -/
theorem readPieces?_plain {c : Char} (hQuote : c ≠ '"') (hBackslash : c ≠ '\\')
    (hControl : ¬ c.toNat < 0x20) (text : List Char) :
    readPieces? (c :: text) = (readPieces? text).map (putPiece (.char c)) := by
  rw [readPieces?, if_neg hControl]
  · cases readPieces? text with
    | none => rfl
    | some parts => rfl
  · exact hQuote
  · exact fun _ _ _ _ _ hEq => (hBackslash hEq).elim
  · exact fun _ _ hEq => (hBackslash hEq).elim

/-- A written character gives its part. -/
theorem readPieces?_escape (c : Char) (text : List Char) :
    readPieces? (Json.escape c ++ text) = (readPieces? text).map (putPiece (pieceOf c)) := by
  rw [Json.escape]
  -- The seven characters that are written with a letter.
  iterate 7
    split
    · rename_i hc
      subst hc
      exact readPieces?_escaped rfl text
  split
  · rename_i hBack hFeed hLine hReturn hTab hControl
    have hPiece : pieceOf c = .unit c.toNat := by
      simp [pieceOf, hControl, hBack, hFeed, hLine, hReturn, hTab]
    have hOctet : (UInt8.ofNat c.toNat).toNat = c.toNat :=
      UInt8.toNat_ofNat_of_lt' (Nat.lt_trans hControl (by decide))
    have hDigits := fourDigits?_octetDigits hControl
    rw [hPiece, Hex.octetDigits, hOctet]
    exact readPieces?_unit hDigits text
  · rename_i hQuote hBackslash _ _ _ _ _ hControl
    have hPiece : pieceOf c = .char c := if_neg fun h => hControl h.1
    rw [hPiece]
    exact readPieces?_plain hQuote hBackslash hControl text

/-- The written characters up to the closing quote give their parts. -/
theorem readPieces?_flatMap (cs rest : List Char) :
    readPieces? (cs.flatMap Json.escape ++ '"' :: rest) = some (cs.map pieceOf, rest) := by
  induction cs with
  | nil => rfl
  | cons c cs ih =>
      rw [List.flatMap_cons, List.append_assoc, readPieces?_escape, ih]
      rfl

/-- A part that is no half of a pair is joined with nothing. -/
theorem joinPieces?_unit {n : Nat} (h : n < 0xD800) (pieces : List Piece) :
    joinPieces? (.unit n :: pieces) = (Char.ofNat n :: ·) <$> joinPieces? pieces := by
  have hHigh : ¬ (0xD800 ≤ n ∧ n < 0xDC00) := by omega
  have hLow : ¬ (0xDC00 ≤ n ∧ n < 0xE000) := by omega
  have hHalf : ¬ (0xD800 ≤ n ∧ n < 0xE000) := by omega
  cases pieces with
  | nil => simp only [joinPieces?, if_neg hHalf]
  | cons piece pieces =>
      cases piece with
      | char c => simp only [joinPieces?, if_neg hHalf]
      | unit low => rw [joinPieces?, if_neg hHigh, if_neg hLow]

/-- The pieces that characters are written in are joined to these characters. -/
theorem joinPieces?_map_pieceOf (cs : List Char) : joinPieces? (cs.map pieceOf) = some cs := by
  induction cs with
  | nil => rfl
  | cons c cs ih =>
      rw [List.map_cons, pieceOf]
      split
      · rename_i hControl
        rw [joinPieces?_unit (Nat.lt_trans hControl.1 (by decide)), ih, Char.ofNat_toNat]
        rfl
      · rw [joinPieces?, ih]
        rfl

/-- **A quoted text is read back.** -/
theorem readString?_quote (text : String) (rest : List Char) :
    readString? (text.toList.flatMap Json.escape ++ '"' :: rest) = some (some text, rest) := by
  rw [readString?, readPieces?_flatMap, Option.map_some]
  dsimp only
  rw [joinPieces?_map_pieceOf, Option.map_some, String.ofList_toList]

/-! ### Numbers and truth values -/

/-- What may **follow** a written value: nothing, a comma or a new line. -/
def Follows (rest : List Char) : Prop :=
  ∀ c, rest.head? = some c → c = ',' ∨ c = '\n'

/-- A number may be followed by a comma. -/
theorem follows_comma (rest : List Char) : Follows (',' :: rest) := fun _ h =>
  .inl (Option.some.inj h).symm

theorem follows_newLine (depth : Nat) (rest : List Char) : Follows (Json.newLine depth ++ rest) :=
  fun _ h => .inr (Option.some.inj h).symm

/-- The number that is read when the digits of `n` stand there. -/
def numeral (n : Nat) : JsonNumber :=
  ⟨false, Nat.toDigits 10 n, none, none⟩

/-- Digits are read as far as they go. -/
theorem digits_append {ds rest : List Char} (h : ∀ c ∈ ds, c.isDigit = true)
    (hRest : Follows rest) : JsonNumber.digits (ds ++ rest) = (ds, rest) := by
  rw [JsonNumber.digits, List.span_eq_takeWhile_dropWhile, List.takeWhile_append_of_pos h,
    List.dropWhile_append_of_pos h]
  cases rest with
  | nil => simp
  | cons c rest =>
      have hNot : c.isDigit = false := by
        rcases hRest c rfl with rfl | rfl <;> rfl
      simp [hNot]

/-- The digits of a number are read as a whole number, since they have no zero in front. -/
theorem readWhole?_toDigits (n : Nat) {rest : List Char} (hRest : Follows rest) :
    JsonNumber.readWhole? (Nat.toDigits 10 n ++ rest) = some (Nat.toDigits 10 n, rest) := by
  have hDigits := digits_append (fun c => Numeral.isDigit_of_mem_toDigits (n := n)) hRest
  cases hText : Nat.toDigits 10 n with
  | nil => exact absurd hText Nat.toDigits_ne_nil
  | cons c cs =>
      by_cases hZero : c = '0'
      · subst hZero
        obtain rfl := Numeral.head?_toDigits (n := n) (by rw [hText]; rfl)
        obtain rfl : cs = [] := (List.cons.inj hText).2.symm
        rw [List.singleton_append, JsonNumber.readWhole?, if_neg]
        cases rest with
        | nil => simp
        | cons c rest => rcases hRest c rfl with rfl | rfl <;> exact Bool.false_ne_true
      · rw [hText] at hDigits
        rw [List.cons_append, JsonNumber.readWhole?, JsonNumber.readDigits?, ← List.cons_append,
          hDigits]
        exact fun _ hEq => hZero (List.cons.inj hEq).1

/-- A text with another first character does not begin with the word. -/
theorem afterWord?_cons_of_ne {word : String} {d c : Char} {ds : List Char}
    (hWord : word.toList = d :: ds) (h : d ≠ c) (text : List Char) :
    afterWord? word (c :: text) = none := by
  simp [afterWord?, hWord, h]

/-- The digits of a number are read as that number, with no fraction and no exponent. -/
theorem readUnsigned?_toDigits (n : Nat) {rest : List Char} (hRest : Follows rest) :
    JsonNumber.readUnsigned? false (Nat.toDigits 10 n ++ rest) = some (numeral n, rest) := by
  have hPoint : JsonNumber.readFraction? rest = some (none, rest) := by
    rw [JsonNumber.readFraction?]
    rintro _ rfl
    exact (hRest '.' rfl).elim nofun nofun
  have hExponent : JsonNumber.readExponent? rest = some (none, rest) := by
    rw [JsonNumber.readExponent?]
    · rintro _ rfl
      exact (hRest 'e' rfl).elim nofun nofun
    · rintro _ rfl
      exact (hRest 'E' rfl).elim nofun nofun
  simp [JsonNumber.readUnsigned?, readWhole?_toDigits n hRest, hPoint, hExponent, numeral]

/-- **A number** is read back from its digits. -/
theorem readScalar_number (n : Nat) {rest : List Char} (hRest : Follows rest) :
    readScalar (Nat.toDigits 10 n ++ rest) = (number (numeral n), rest) := by
  have hRead := readUnsigned?_toDigits n hRest
  cases hText : Nat.toDigits 10 n with
  | nil => exact absurd hText Nat.toDigits_ne_nil
  | cons c cs =>
      have hDigit : c.isDigit = true :=
        Numeral.isDigit_of_mem_toDigits (n := n) (hText ▸ List.mem_cons_self)
      have hNe : ∀ d : Char, d.isDigit = false → d ≠ c := by
        rintro d hd rfl
        rw [hDigit] at hd
        cases hd
      rw [hText, List.cons_append] at hRead
      rw [List.cons_append, readScalar, afterWord?_cons_of_ne rfl (hNe 'n' rfl),
        afterWord?_cons_of_ne rfl (hNe 't' rfl), afterWord?_cons_of_ne rfl (hNe 'f' rfl),
        JsonNumber.read?, hRead]
      · exact fun _ hEq => hNe '-' rfl (List.cons.inj hEq).1.symm
      · exact fun _ hEq => hNe '"' rfl (List.cons.inj hEq).1.symm

/-- A truth value is read from its word. -/
theorem readScalar_bool (b : Bool) (rest : List Char) :
    readScalar ((toString b).toList ++ rest) = (bool b, rest) := by
  cases b <;> rfl

/-- A string is read from between its quotes. -/
theorem readScalar_string (text : String) (rest : List Char) :
    readScalar (Json.quote text ++ rest) = (string (some text), rest) := by
  have hString := readString?_quote text rest
  rw [Json.quote, List.append_assoc, List.cons_append, List.singleton_append, readScalar, hString]

end RemoteAttestation.JsonSource
