import RemoteAttestation.Appraisal.Basic
import RemoteAttestation.Proofs.Pcr.Values

/-!
# The Attestation Policy

What it takes for a quote to be accepted, said without the checks that decide it. A quote is
accepted when it repeats the nonce, covers exactly the PCRs that have an expected value, states
the digest of those values, and is signed by the key. `Attestation.Policy` is that condition,
and `verify_result_policy` says that the verdict on a quote is positive on just the quotes that
meet it.

The coverage of a quote is a set of slots (`Attestation.Covers`): a bank may be listed twice or
with nothing in it, and a list of empty banks covers as little as no list at all. The digest is
not taken over that set but over the list, so a bank that is listed twice counts twice
(`Attestation.preimage`).

## Main results

* `Attestation.expectedDigest_eq_ok_iff`: when there is a digest to compare with, and which.
* `Attestation.checkDigest_isOk_iff`: the check of the digest, as the policy states it.
* `verify_result_policy`: decoding fails as it does, or the verdict follows the policy.
-/

namespace RemoteAttestation

namespace Attestation

/-- A quote **covers** a slot when one of its selections names it. -/
def Covers (a : Attestation) (slot : Slot) : Prop :=
  ∃ s ∈ a.selections, s.bank = slot.bank ∧ slot.index ∈ s.indices

/-- An algorithm **fits** the digest of a quote when it is the hash and has the digest's
size. -/
def Fits (a : Attestation) (algorithm : Algorithm) (hash : HashAlgorithm) : Prop :=
  algorithm.hash? = some hash ∧ hash.size = a.pcrDigest.length

/-- The hash behind the digest of a quote: that of the signature if it fits, and that of the
first bank if only this one does. -/
def DigestHash (a : Attestation) (s : Signature) (hash : HashAlgorithm) : Prop :=
  a.Fits s.hashAlgorithm hash ∨
    (∀ other, ¬ a.Fits s.hashAlgorithm other) ∧
      ∃ first, a.selections.head? = some first ∧ a.Fits first.bank hash

/-- The expected values in the order of a quote: bank by bank as the quote lists them, the
lowest index of a bank first. A slot without a value contributes nothing. -/
def preimage (a : Attestation) (expected : PcrValues) : Bytes :=
  a.selections.flatMap fun s =>
    s.indices.flatMap fun index => (expected.get? ⟨s.bank, index⟩).getD []

/-- The **policy**: what the decoded parts of a quote have to satisfy to be accepted. The
signature is over `raw`, the attestation as it was received. -/
structure Policy (a : Attestation) (s : Signature) (raw nonce : Bytes) (expected : PcrValues)
    (key : AttestationKey) : Prop where
  /-- The quote repeats the nonce. -/
  fresh : a.extraData = nonce
  /-- The quote covers something. -/
  covers_some : ∃ slot, a.Covers slot
  /-- The quote covers just the slots that have an expected value. -/
  covers_iff : ∀ slot, a.Covers slot ↔ (expected.get? slot).isSome = true
  /-- The digest is that of the expected values. -/
  digest : ∃ hash, a.DigestHash s hash ∧ a.pcrDigest = hash.digest (a.preimage expected)
  /-- The key signed the attestation. -/
  signed : (key.check s raw).isOk = true

/-! ### Coverage -/

/-- An attestation selects the slots that it covers. -/
theorem selects_eq_true_iff {a : Attestation} {slot : Slot} :
    a.selects slot = true ↔ a.Covers slot := by
  simp only [selects, Covers, List.any_eq_true, Bool.and_eq_true, beq_iff_eq, Selection.contains,
    List.contains_iff_mem]

/-- The slots of the selections of an attestation are those that it covers. -/
theorem mem_flatMap_slots_iff {a : Attestation} {slot : Slot} :
    slot ∈ a.selections.flatMap Selection.slots ↔ a.Covers slot := by
  simp only [List.mem_flatMap, Selection.mem_slots_iff, Covers, eq_comm]

/-- A list of selections is as good as empty when nothing is covered. -/
theorem all_isEmpty_eq_false_iff {a : Attestation} :
    a.selections.all Selection.isEmpty = false ↔ ∃ slot, a.Covers slot := by
  simp only [List.all_eq_false, Selection.isEmpty, List.isEmpty_iff, Covers]
  constructor
  · rintro ⟨s, hs, hNe⟩
    obtain ⟨index, hIndex⟩ := List.exists_mem_of_ne_nil _ hNe
    exact ⟨⟨s.bank, index⟩, s, hs, rfl, hIndex⟩
  · rintro ⟨slot, s, hs, -, hIndex⟩
    exact ⟨s, hs, List.ne_nil_of_mem hIndex⟩

/-! ### Values -/

/-- The values that a quote covers are there when each slot that it covers has one. -/
theorem concat_eq_ok_iff {a : Attestation} {expected : PcrValues} {b : Bytes} :
    expected.concat a.selections = .ok b ↔
      (∀ slot, a.Covers slot → (expected.get? slot).isSome = true) ∧
        b = a.preimage expected := by
  rw [PcrValues.concat, PcrValues.concatSlots_eq_ok_iff]
  simp only [mem_flatMap_slots_iff, List.flatMap_assoc, preimage, Selection.slots, List.flatMap_map]

/-- No value is expected outside of a quote's coverage. -/
theorem find?_not_selects_eq_none_iff {a : Attestation} {expected : PcrValues} :
    (expected.toList.find? fun (slot, _) => !a.selects slot) = none ↔
      ∀ slot, (expected.get? slot).isSome = true → a.Covers slot := by
  simp only [List.find?_eq_none, Prod.forall, PcrValues.mem_toList_iff, Bool.not_eq_true,
    Bool.not_eq_false', selects_eq_true_iff, Option.isSome_iff_exists, forall_exists_index]

/-! ### The digest -/

/-- Among the hashes that are tried, an algorithm contributes its hash if that fits. -/
theorem find?_hash_eq_some_iff {a : Attestation} {algorithm : Algorithm} {hash : HashAlgorithm} :
    ([algorithm].filterMap Algorithm.hash?).find? (·.size == a.pcrDigest.length) = some hash ↔
      a.Fits algorithm hash := by
  rw [Fits]
  cases hHash : algorithm.hash? with
  | none => simp [hHash]
  | some own =>
      rw [List.filterMap_cons_some hHash, List.filterMap_nil, List.find?_singleton]
      simp only [beq_iff_eq, Option.ite_none_right_eq_some, Option.some.injEq]
      constructor
      · rintro ⟨hSize, rfl⟩
        exact ⟨rfl, hSize⟩
      · rintro ⟨rfl, hSize⟩
        exact ⟨hSize, rfl⟩

/-- The hash that a digest is taken with is the one that the policy names. -/
theorem digestHash?_eq_some_iff {a : Attestation} {s : Signature} {hash : HashAlgorithm} :
    a.digestHash? s = some hash ↔ a.DigestHash s hash := by
  have hNone : ([s.hashAlgorithm].filterMap Algorithm.hash?).find?
      (·.size == a.pcrDigest.length) = none ↔ ∀ other, ¬ a.Fits s.hashAlgorithm other := by
    simp only [Option.eq_none_iff_forall_ne_some, ne_eq, find?_hash_eq_some_iff]
  rw [digestHash?, ← List.singleton_append, List.filterMap_append, List.find?_append,
    Option.or_eq_some_iff, find?_hash_eq_some_iff, hNone, DigestHash]
  cases hHead : a.selections.head? with
  | none => simp
  | some first =>
      rw [Option.map_some, Option.toList_some, find?_hash_eq_some_iff]
      simp

/-- There is a digest to compare with when the quote covers something, and just the slots that
have an expected value, and a hash fits. -/
theorem expectedDigest_eq_ok_iff {a : Attestation} {s : Signature} {expected : PcrValues}
    {digest : Bytes} :
    a.expectedDigest s expected = .ok digest ↔
      (∃ slot, a.Covers slot) ∧ (∀ slot, a.Covers slot ↔ (expected.get? slot).isSome = true) ∧
        ∃ hash, a.DigestHash s hash ∧ digest = hash.digest (a.preimage expected) := by
  rw [expectedDigest]
  constructor
  · intro h
    split at h
    · cases h
    rename_i hNotEmpty
    rw [Bool.not_eq_true, all_isEmpty_eq_false_iff] at hNotEmpty
    split at h
    · cases h
    rename_i hFind
    split at h
    · cases h
    rename_i hash hHash
    split at h
    · cases h
    rename_i values hConcat
    obtain ⟨hValued, rfl⟩ := concat_eq_ok_iff.mp hConcat
    have hCovered := find?_not_selects_eq_none_iff.mp hFind
    exact ⟨hNotEmpty, fun slot => ⟨hValued slot, hCovered slot⟩, hash,
      digestHash?_eq_some_iff.mp hHash, (Except.ok.inj h).symm⟩
  · rintro ⟨hSome, hIff, hash, hHash, rfl⟩
    have hNotEmpty := all_isEmpty_eq_false_iff.mpr hSome
    have hFind := find?_not_selects_eq_none_iff.mpr fun slot => (hIff slot).mpr
    have hConcat := concat_eq_ok_iff.mpr ⟨fun slot => (hIff slot).mp, rfl⟩
    simp only [hNotEmpty, hFind, digestHash?_eq_some_iff.mpr hHash, hConcat, Bool.false_eq_true,
      if_false]

/-- The check of the digest succeeds when the coverage is right and the digest is that of the
expected values. -/
theorem checkDigest_isOk_iff {a : Attestation} {s : Signature} {expected : PcrValues} :
    (a.checkDigest s expected).isOk = true ↔
      (∃ slot, a.Covers slot) ∧ (∀ slot, a.Covers slot ↔ (expected.get? slot).isSome = true) ∧
        ∃ hash, a.DigestHash s hash ∧ a.pcrDigest = hash.digest (a.preimage expected) := by
  rw [← expectedDigest_eq_ok_iff, checkDigest]
  cases a.expectedDigest s expected with
  | error fault => simp [Except.isOk, Except.toBool]
  | ok digest =>
      by_cases hDigest : digest = a.pcrDigest <;>
        simp [hDigest, Except.isOk, Except.toBool]

/-- The nonce is accepted just when it is the extra data of the attestation. -/
theorem checkNonce_isOk_iff {a : Attestation} {nonce : Bytes} :
    (a.checkNonce nonce).isOk = true ↔ a.extraData = nonce := by
  rw [checkNonce]
  by_cases hNonce : a.extraData = nonce <;> simp [hNonce, Except.isOk, Except.toBool]

end Attestation

/-! ### The verdict -/

/-- The verdict on a decoded quote is positive when the quote meets the policy. -/
theorem verifyDecoded_overall_iff {raw nonce : Bytes} {a : Attestation} {s : Signature}
    {expected : PcrValues} {key : AttestationKey} :
    (verifyDecoded raw a s nonce expected key).result.overall = true ↔
      a.Policy s raw nonce expected key := by
  simp only [verifyDecoded, Appraisal.verdict, appraise, Verdict.overall, Bool.and_eq_true,
    Attestation.checkNonce_isOk_iff, Attestation.checkDigest_isOk_iff]
  constructor
  · rintro ⟨⟨hFresh, hSome, hIff, hDigest⟩, hSigned⟩
    exact ⟨hFresh, hSome, hIff, hDigest, hSigned⟩
  · rintro ⟨hFresh, hSome, hIff, hDigest, hSigned⟩
    exact ⟨⟨hFresh, hSome, hIff, hDigest⟩, hSigned⟩

/-- **Acceptance is the policy.** The attestation is decoded first and the signature second,
and the first that cannot be decoded is the fault. A quote whose parts can both be decoded has
a verdict, which is positive just when the quote meets the policy. -/
theorem verify_result_policy (raw rawSignature nonce : Bytes) (expected : PcrValues)
    (key : AttestationKey) :
    match Attestation.decode raw, Signature.decode rawSignature with
    | .error fault, _ =>
      (verify raw rawSignature nonce expected key).result = .error (.malformedAttestation fault)
    | .ok _, .error fault =>
      (verify raw rawSignature nonce expected key).result = .error (.malformedSignature fault)
    | .ok a, .ok s =>
      ∃ v, (verify raw rawSignature nonce expected key).result = .ok v ∧
        (v.overall = true ↔ a.Policy s raw nonce expected key) := by
  rw [verify]
  cases Attestation.decode raw with
  | error fault => rfl
  | ok a =>
      cases Signature.decode rawSignature with
      | error fault => rfl
      | ok s => exact ⟨_, rfl, verifyDecoded_overall_iff⟩

end RemoteAttestation
