import RemoteAttestation.Proofs.Appraisal.Agreement
import RemoteAttestation.Proofs.Key.Numbers

/-!
# Signatures as Pairs of Numbers

A TPM writes the two integers of a signature as it likes, with the zeros in front or without,
so the strings have other lengths from one signature to the next. What is signed is said by the
numbers. The check moves both integers to the width of the curve first, and from there on it is
a check of two numbers against a digest (`Ecdsa.checkNumbers`).

An integer that does not fit in the width is refused. This refuses no signature that could have
been accepted, since a number of that size is above the order of the curve; so what is accepted
is just what the equation of the signature scheme accepts (`Ecdsa.verify`), in whatever width
it is written.

## Main results

* `AttestationKey.checkIntegers_eq`: the check is one of two numbers.
* `AttestationKey.check_ecdsa_eq_ok_iff`: which pairs of integers are accepted.
* `AttestationKey.check_numbers`: what a signature on a curve depends on.
-/

namespace RemoteAttestation

/-! ### Numbers below the order -/

/-- A number below the order of a curve fits in its width. -/
theorem Curve.lt_of_lt_order {c : Curve} {n : Nat} (h : n < c.order) : n < 256 ^ c.width := by
  have hOrder : c.order ≤ 256 ^ c.width := by
    cases c with
    | p256 => decide
    | p384 => decide
  exact Nat.lt_of_lt_of_le h hOrder

namespace Ecdsa

variable {c : Curve} {point : c.Point} {digest : Bytes} {first second : Nat}

/-- The check of **two numbers** against a digest. Each has to fit in the width of the curve,
and together they have to satisfy the equation of the scheme. -/
def checkNumbers (c : Curve) (point : c.Point) (digest : Bytes) (first second : Nat) :
    Except SignatureFault Unit :=
  if 256 ^ c.width ≤ first then .error (.oversized ⟨Arithmetic.octetLength first, c.width⟩)
  else if 256 ^ c.width ≤ second then .error (.oversized ⟨Arithmetic.octetLength second, c.width⟩)
  else if verify c point digest first second then .ok ()
  else .error .wrongIntegers

/-- Both numbers of a signature are **below the order**. -/
theorem lt_order_of_verify (h : verify c point digest first second = true) :
    first < c.order ∧ second < c.order := by
  rw [verify] at h
  split at h
  · cases h
  · rename_i hRange
    omega

/-- The width **keeps nothing out**: what satisfies the equation fits in it. -/
theorem checkNumbers_eq_ok_iff :
    checkNumbers c point digest first second = .ok () ↔
      verify c point digest first second = true := by
  rw [checkNumbers]
  constructor
  · intro h
    split_ifs at h with hFirst hSecond hVerify
    exact hVerify
  · intro hVerify
    obtain ⟨hFirst, hSecond⟩ := lt_order_of_verify hVerify
    have hFitsFirst := Curve.lt_of_lt_order hFirst
    have hFitsSecond := Curve.lt_of_lt_order hSecond
    rw [if_neg (Nat.not_le.mpr hFitsFirst), if_neg (Nat.not_le.mpr hFitsSecond), if_pos hVerify]

/-- A number **above the width** is refused. -/
theorem exists_checkNumbers_eq_error (h : 256 ^ c.width ≤ first ∨ 256 ^ c.width ≤ second) :
    ∃ fault, checkNumbers c point digest first second = .error (.oversized fault) := by
  rw [checkNumbers]
  by_cases hFirst : 256 ^ c.width ≤ first
  · exact ⟨_, if_pos hFirst⟩
  · have hSecond := h.resolve_left hFirst
    rw [if_neg hFirst, if_pos hSecond]
    exact ⟨_, rfl⟩

end Ecdsa

namespace AttestationKey

variable {c : Curve} {point : c.Point} {algorithm hashAlgorithm : Algorithm}
  {digest first second message : Bytes}

/-- The check of two integers is one of **their numbers**, whatever zeros stand in front of
them. -/
theorem checkIntegers_eq (c : Curve) (point : c.Point) (digest first second : Bytes) :
    checkIntegers c point digest first second =
      Ecdsa.checkNumbers c point digest first.value second.value := by
  have hFits : ∀ n, ¬ 256 ^ c.width ≤ n → (Bytes.ofNat c.width n).value = n := fun n hn =>
    Bytes.value_ofNat_of_lt (Nat.not_le.mp hn)
  rw [checkIntegers, Bytes.fit_both, Ecdsa.checkNumbers]
  split
  · rfl
  rename_i hFirst
  split
  · rfl
  rename_i hSecond
  rw [hFits _ hFirst, hFits _ hSecond]
  rfl

/-- A signature of two integers for a key on a curve is refused for its hash, or it is
**checked as two numbers**. -/
theorem check_ecdsa_eq (point : c.Point) (algorithm hashAlgorithm : Algorithm)
    (first second message : Bytes) :
    check (elliptic c point) ⟨algorithm, hashAlgorithm, .ecdsa first second⟩ message =
      match hashAlgorithm.hash? with
      | none => .error (.notAHash hashAlgorithm)
      | some hash => Ecdsa.checkNumbers c point (hash.digest message) first.value second.value := by
  rw [check]
  cases hashAlgorithm.hash? with
  | none => rfl
  | some hash => exact checkIntegers_eq c point (hash.digest message) first second

/-- **Which pairs of integers are accepted**: those whose numbers satisfy the equation of the
scheme. -/
theorem check_ecdsa_eq_ok_iff :
    check (elliptic c point) ⟨algorithm, hashAlgorithm, .ecdsa first second⟩ message = .ok () ↔
      ∃ hash, hashAlgorithm.hash? = some hash ∧
        Ecdsa.verify c point (hash.digest message) first.value second.value = true := by
  rw [check_ecdsa_eq]
  cases hashAlgorithm.hash? with
  | none => simp
  | some hash => simp [Ecdsa.checkNumbers_eq_ok_iff]

/-- **What a signature on a curve depends on**: its two integers count as numbers only. Two
signatures under the same names, with integers that denote the same numbers, have the same
result, and the same fault if it is one. A signature with an integer that is too large for the
width of the curve is refused. All others are accepted just when their numbers satisfy the
equation of the scheme. -/
theorem check_numbers (point : c.Point) (algorithm hashAlgorithm : Algorithm)
    (first second message : Bytes) :
    (∀ first' second' : Bytes, first'.value = first.value → second'.value = second.value →
      check (elliptic c point) ⟨algorithm, hashAlgorithm, .ecdsa first' second'⟩ message =
        check (elliptic c point) ⟨algorithm, hashAlgorithm, .ecdsa first second⟩ message) ∧
    (256 ^ c.width ≤ first.value ∨ 256 ^ c.width ≤ second.value →
      ∃ fault, check (elliptic c point) ⟨algorithm, hashAlgorithm, .ecdsa first second⟩ message =
        .error fault) ∧
    (check (elliptic c point) ⟨algorithm, hashAlgorithm, .ecdsa first second⟩ message = .ok () ↔
      ∃ hash, hashAlgorithm.hash? = some hash ∧
        Ecdsa.verify c point (hash.digest message) first.value second.value = true) := by
  refine ⟨fun first' second' hFirst hSecond => ?_, fun hOversized => ?_, check_ecdsa_eq_ok_iff⟩
  · rw [check_ecdsa_eq, check_ecdsa_eq, hFirst, hSecond]
  · rw [check_ecdsa_eq]
    cases hashAlgorithm.hash? with
    | none => exact ⟨_, rfl⟩
    | some hash =>
        obtain ⟨fault, hFault⟩ := Ecdsa.exists_checkNumbers_eq_error hOversized
        exact ⟨_, hFault⟩

end AttestationKey

/-! ### A signature with zeros in front -/

namespace ZerosInFront

open OtherName

/-- The digest of the message, which is both integers of its signature. -/
def integer : Bytes :=
  HashAlgorithm.sha256.digest message

/-- The signature under the proper name, with some strings for its integers. -/
def written (first second : Bytes) : Signature :=
  ⟨.ecdsa, .sha256, .ecdsa first second⟩

/-- The signature with its integers in the width of the curve is accepted. -/
theorem check_written : key.check (written integer integer) message = .ok () :=
  (misnames.check_eq message).symm.trans check

end ZerosInFront

open OtherName ZerosInFront in
/-- A signature is accepted with any zeros in front of its integers, and refused when one of
them takes another octet. -/
theorem AttestationKey.check_numbers_of_zeros_in_front :
    key.check (written (0 :: 0 :: integer) (0 :: integer)) message = .ok () ∧
      ∃ fault, key.check (written (1 :: integer) integer) message = .error fault := by
  obtain ⟨point, hKey⟩ : ∃ point, key = .elliptic .p256 point := ⟨_, rfl⟩
  have hAccepted := check_written
  rw [hKey] at hAccepted ⊢
  obtain ⟨hSame, -, -⟩ := check_numbers point .ecdsa .sha256 integer integer message
  obtain ⟨-, hOversized, -⟩ := check_numbers point .ecdsa .sha256 (1 :: integer) integer message
  refine ⟨(hSame (0 :: 0 :: integer) (0 :: integer) ?_ ?_).trans hAccepted, hOversized (.inl ?_)⟩
  · decide +kernel
  · decide +kernel
  · decide +kernel

end RemoteAttestation
