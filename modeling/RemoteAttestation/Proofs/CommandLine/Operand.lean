import RemoteAttestation.CommandLine.Operand
import RemoteAttestation.Proofs.Algorithm
import RemoteAttestation.Proofs.Results
import RemoteAttestation.Proofs.Text.Numeral
import RemoteAttestation.Proofs.Text.Split
import RemoteAttestation.Quote.Scheme

/-!
# Handles and Schemes as Operators Write Them

The handle of a key is written in hexadecimal, in digits of either case. There may be `0x` or
`0X` in front, and a plus sign between that and the digits. A handle has four octets, so zeros
in front do not count and a number that needs more is not a handle. This is all that can be
written: since no hexadecimal digit is an `x`, a text has the mark or has not
(`dropHexMark_iff`).

A scheme is written as the name of its algorithm, with a colon and the name of its hash behind
it or not. The hash is SHA-256 when it is not written, and it has to be a hash even where the
scheme has no use for it.

## Main results

* `parseHandle_eq_ok_iff`: the handle that is read is the one that is written.
* `Scheme.parse_eq_ok_iff`: the scheme that is read is the one that is written.
-/

namespace RemoteAttestation

open Numeral

/-! ### Handles -/

/-- A text **writes** a handle: a mark or none, a plus sign or none, and hexadecimal digits
that make the handle. -/
def WritesHandle (text : String) (handle : UInt32) : Prop :=
  ∃ (mark sign digitChars : List Char) (digits : List Nat),
    text.toList = mark ++ sign ++ digitChars ∧
    (mark = [] ∨ mark = ['0', 'x'] ∨ mark = ['0', 'X']) ∧ (sign = [] ∨ sign = ['+']) ∧
    digitChars ≠ [] ∧ List.Forall₂ HexDigit digitChars digits ∧
    digits.foldl (fun total digit => 16 * total + digit) 0 = handle.toNat

/-- The digits of a number in radix sixteen, with a plus sign before them or none. -/
def HexNumeral (cs : List Char) (n : Nat) : Prop :=
  ∃ digitChars digits, (cs = digitChars ∨ cs = '+' :: digitChars) ∧ digitChars ≠ [] ∧
    List.Forall₂ HexDigit digitChars digits ∧ total 16 0 digits = n

/-- The numbers that are read in radix sixteen. -/
theorem read_sixteen_iff {cs : List Char} {bound n : Nat} (hBound : 0 < bound) :
    read 16 bound cs = .ok n ↔ HexNumeral cs n ∧ n < bound := by
  rw [read_iff (by decide) hBound, HexNumeral]
  simp only [AreDigits, digit?_sixteen_iff]
  constructor
  · rintro ⟨digitChars, digits, hText, hNe, hDigits, hTotal, hLt⟩
    exact ⟨⟨digitChars, digits, hText, hNe, hDigits, hTotal⟩, hLt⟩
  · rintro ⟨⟨digitChars, digits, hText, hNe, hDigits, hTotal⟩, hLt⟩
    exact ⟨digitChars, digits, hText, hNe, hDigits, hTotal, hLt⟩

/-- No hexadecimal digit is the letter of a mark. -/
theorem HexNumeral.ne_mark {cs : List Char} {n : Nat} (h : HexNumeral cs n) {c : Char}
    (hc : c ∈ cs) : c ≠ 'x' ∧ c ≠ 'X' := by
  have hAll : ∀ digit < 16, (Nat.digitChar digit ≠ 'x' ∧ Nat.digitChar digit ≠ 'X') ∧
      (Nat.digitChar digit).toUpper ≠ 'x' ∧ (Nat.digitChar digit).toUpper ≠ 'X' := by decide
  obtain ⟨digitChars, digits, hText, -, hDigits, -⟩ := h
  have hChar : c ∈ digitChars ∨ c = '+' := by
    rcases hText with rfl | rfl
    · exact .inl hc
    · exact (List.mem_cons.mp hc).symm
  rcases hChar with hDigit | rfl
  · obtain ⟨digit, -, hLt, rfl | rfl⟩ := exists_of_mem_of_forall₂ hDigits hDigit
    · exact (hAll digit hLt).1
    · exact (hAll digit hLt).2
  · decide

/-- **The mark is left out** of what is read. -/
theorem dropHexMark_iff {cs : List Char} {n : Nat} :
    HexNumeral (dropHexMark cs) n ↔
      ∃ mark rest, cs = mark ++ rest ∧ (mark = [] ∨ mark = ['0', 'x'] ∨ mark = ['0', 'X']) ∧
        HexNumeral rest n := by
  constructor
  · intro h
    rw [dropHexMark.eq_def] at h
    split at h
    · exact ⟨['0', 'x'], _, rfl, .inr (.inl rfl), h⟩
    · exact ⟨['0', 'X'], _, rfl, .inr (.inr rfl), h⟩
    · exact ⟨[], cs, rfl, .inl rfl, h⟩
  · rintro ⟨mark, rest, rfl, rfl | rfl | rfl, h⟩
    · have hUnmarked : dropHexMark rest = rest := by
        rw [dropHexMark.eq_def]
        split
        · exact absurd rfl (h.ne_mark (List.mem_cons_of_mem _ List.mem_cons_self)).1
        · exact absurd rfl (h.ne_mark (List.mem_cons_of_mem _ List.mem_cons_self)).2
        · rfl
      exact hUnmarked.symm ▸ h
    · exact h
    · exact h

/-- The handle has the number that is read. -/
theorem parseHandle_eq_ok_iff_read {text : String} {handle : UInt32} :
    parseHandle text = .ok handle ↔
      read 16 (1 <<< 32) (dropHexMark text.toList) = .ok handle.toNat := by
  rw [parseHandle]
  cases hRead : read 16 (1 <<< 32) (dropHexMark text.toList) with
  | error fault => simp only [reduceCtorEq]
  | ok n =>
      have hLt : n < 2 ^ 32 := ((read_sixteen_iff (by decide)).mp hRead).2
      simp only [Except.ok.injEq]
      rw [← UInt32.toNat_inj, UInt32.toNat_ofNat_of_lt' hLt]

/-- **The handle that is read** is the one that a text writes. -/
theorem parseHandle_eq_ok_iff {text : String} {handle : UInt32} :
    parseHandle text = .ok handle ↔ WritesHandle text handle := by
  have hLt : handle.toNat < 1 <<< 32 := handle.toNat_lt
  rw [parseHandle_eq_ok_iff_read, read_sixteen_iff (by decide), dropHexMark_iff, and_iff_left hLt]
  constructor
  · rintro ⟨mark, _, hText, hMark, digitChars, digits, rfl | rfl, hNe, hDigits, hTotal⟩
    · exact ⟨mark, [], _, digits, by rw [hText, List.append_nil], hMark, .inl rfl, hNe, hDigits,
        hTotal⟩
    · exact ⟨mark, ['+'], digitChars, digits, by rw [hText, List.append_assoc]; rfl, hMark,
        .inr rfl, hNe, hDigits, hTotal⟩
  · rintro ⟨mark, _, digitChars, digits, hText, hMark, rfl | rfl, hNe, hDigits, hTotal⟩
    · exact ⟨mark, _, by rw [hText, List.append_nil], hMark, digitChars, digits, .inl rfl, hNe,
        hDigits, hTotal⟩
    · exact ⟨mark, _, by rw [hText, List.append_assoc]; rfl, hMark, digitChars, digits, .inr rfl,
        hNe, hDigits, hTotal⟩

/-- A mark, a plus sign, a zero in front and letters of both cases. -/
example : parseHandle "0X+0810100aB" = .ok 0x810100AB := by decide

/-! ### Schemes -/

/-- An algorithm with a hash **makes** a scheme. -/
inductive Scheme.MadeOf (hash : Algorithm) : Algorithm → Scheme → Prop
  /-- The null scheme has no use for the hash. -/
  | null : MadeOf hash .null .null
  /-- A scheme of RSA keys. -/
  | rsassa : MadeOf hash .rsassa (.rsassa hash)
  /-- A scheme of RSA keys with salts. -/
  | rsapss : MadeOf hash .rsapss (.rsapss hash)
  /-- A scheme of keys on curves. -/
  | ecdsa : MadeOf hash .ecdsa (.ecdsa hash)

/-- A text **writes** a scheme: a word in front of the first colon names the algorithm, and
what is behind the colon names the hash. Without a colon the hash is SHA-256. -/
def WritesScheme (text : String) (scheme : Scheme) : Prop :=
  ∃ (word : List Char) (algorithm hash : Algorithm), ':' ∉ word ∧
    (text.toList = word ∧ hash = .sha256 ∨
      ∃ hashWord, text.toList = word ++ ':' :: hashWord ∧ Algorithm.Names hashWord hash) ∧
    Algorithm.Names word algorithm ∧ hash ∈ [.sha1, .sha256, .sha384, .sha512] ∧
    Scheme.MadeOf hash algorithm scheme

namespace Scheme

/-- The scheme of an algorithm is the one that is made of it and the hash. -/
theorem ofAlgorithm_eq_ok_iff {hash algorithm : Algorithm} {scheme : Scheme} :
    ofAlgorithm hash algorithm = .ok scheme ↔ MadeOf hash algorithm scheme := by
  constructor
  · intro h
    cases algorithm
    case null => exact Except.ok.inj h ▸ .null
    case rsassa => exact Except.ok.inj h ▸ .rsassa
    case rsapss => exact Except.ok.inj h ▸ .rsapss
    case ecdsa => exact Except.ok.inj h ▸ .ecdsa
    all_goals cases h
  · rintro (_ | _ | _ | _) <;> rfl

/-- The scheme that is made of a word and a hash. -/
theorem ofWord_eq_ok_iff {word : String} {hash : Algorithm} {scheme : Scheme} :
    (do
      if !hash.isHash then throw (.notAHash hash)
      ofAlgorithm hash (← (Algorithm.ofName word).mapError .unknown) :
        Except SchemeFault Scheme) = .ok scheme ↔
      hash ∈ [.sha1, .sha256, .sha384, .sha512] ∧
        ∃ algorithm, Algorithm.Names word.toList algorithm ∧ MadeOf hash algorithm scheme := by
  simp only [← Algorithm.isHash_iff_mem, ← ofAlgorithm_eq_ok_iff, ← Algorithm.ofName_eq_ok_iff]
  cases hash.isHash with
  | false => exact iff_of_false nofun nofun
  | true =>
      rw [and_iff_right rfl]
      refine bind_eq_ok_iff.trans (exists_congr fun algorithm => and_congr_left' ?_)
      exact mapError_eq_ok_iff

/-- **The scheme that is read** is the one that a text writes. -/
theorem parse_eq_ok_iff {text : String} {scheme : Scheme} :
    parse text = .ok scheme ↔ WritesScheme text scheme := by
  rw [parse]
  constructor
  · intro h
    split at h
    · rename_i word hashWord hSplit
      obtain ⟨hText, hColon⟩ := Text.splitFirst?_eq_some_iff.mp hSplit
      obtain ⟨hash, hName, h⟩ := bind_eq_ok_iff.mp h
      obtain ⟨hHash, algorithm, hWord, hMade⟩ := ofWord_eq_ok_iff.mp h
      have hHashWord := Algorithm.ofName_eq_ok_iff.mp (mapError_eq_ok_iff.mp hName)
      rw [String.toList_ofList] at hWord hHashWord
      exact ⟨word, algorithm, hash, hColon, .inr ⟨hashWord, hText, hHashWord⟩, hWord, hHash, hMade⟩
    · rename_i hSplit
      have hDefault := bind_eq_ok_iff.mp h
      simp only [pure, Except.pure, Except.ok.injEq, exists_eq_left'] at hDefault
      obtain ⟨hHash, algorithm, hWord, hMade⟩ := ofWord_eq_ok_iff.mp hDefault
      exact ⟨text.toList, algorithm, .sha256, Text.splitFirst?_eq_none_iff.mp hSplit,
        .inl ⟨rfl, rfl⟩, hWord, hHash, hMade⟩
  · rintro ⟨word, algorithm, hash, hColon, ⟨rfl, rfl⟩ | ⟨hashWord, hText, hHashWord⟩, hWord, hHash,
      hMade⟩
    · rw [Text.splitFirst?_eq_none_iff.mpr hColon]
      exact ofWord_eq_ok_iff.mpr ⟨hHash, algorithm, hWord, hMade⟩
    · rw [Text.splitFirst?_eq_some_iff.mpr ⟨hText, hColon⟩]
      have hName : Algorithm.ofName (String.ofList hashWord) = .ok hash :=
        Algorithm.ofName_eq_ok_iff.mpr (by rwa [String.toList_ofList])
      refine bind_eq_ok_iff.mpr ⟨hash, mapError_eq_ok_iff.mpr hName, ofWord_eq_ok_iff.mpr
        ⟨hHash, algorithm, by rwa [String.toList_ofList], hMade⟩⟩

end Scheme

end RemoteAttestation
