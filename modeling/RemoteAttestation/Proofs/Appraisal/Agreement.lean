import RemoteAttestation.Appraisal.Signing
import RemoteAttestation.Proofs.Signature

/-!
# Schemes That Agree With Keys

A signature comes with the name of its scheme, with what the scheme made, and for a key of some
kind. These are three statements about one thing, and they ought to be compared: a signature
that is checked in another scheme than the one it names means something else than it says. The
signature **agrees** with a key (`AttestationKey.Agrees`) when all three are of one kind and
the hash is one.

For an RSA key the name decides which scheme is checked, and a name of neither RSA scheme is
refused. For a key on a curve the name is not looked at. So of the signatures that do not agree
with a key, all are refused, whatever they sign, except for those that hold two integers for a
key on a curve under another name than that of ECDSA (`AttestationKey.Misnames`); these are
accepted when they were right under the proper name. Signatures that were decoded are not among
them, since a decoded name fits what is behind it.

## Main results

* `AttestationKey.check_eq_error_misfit`: signatures that do not agree are refused, and why.
* `AttestationKey.check_agreement`: which signatures are accepted although they do not agree.
* `AttestationKey.check_not_agreeing`: such a signature.
-/

namespace RemoteAttestation

namespace AttestationKey

/-- A signature **agrees** with a key: its hash is one, its scheme is one for keys of this
kind, and it holds what the scheme makes. -/
inductive Agrees : AttestationKey → Signature → Prop where
  /-- Two integers in the scheme of curves. -/
  | ecdsa {c : Curve} {point : c.Point} {hashAlgorithm : Algorithm} {first second : Bytes}
      (isHash : hashAlgorithm.isHash = true) :
      Agrees (elliptic c point) ⟨.ecdsa, hashAlgorithm, .ecdsa first second⟩
  /-- A string in the RSA scheme without a salt. -/
  | rsassa {key : RsaKey} {hashAlgorithm : Algorithm} {octets : Bytes}
      (isHash : hashAlgorithm.isHash = true) :
      Agrees (rsa key) ⟨.rsassa, hashAlgorithm, .rsa octets⟩
  /-- A string in the RSA scheme with a salt. -/
  | rsapss {key : RsaKey} {hashAlgorithm : Algorithm} {octets : Bytes}
      (isHash : hashAlgorithm.isHash = true) :
      Agrees (rsa key) ⟨.rsapss, hashAlgorithm, .rsa octets⟩

/-- A signature that **misnames** its scheme: it holds two integers for a key on a curve but
claims to be of another scheme than that of curves. -/
inductive Misnames : AttestationKey → Signature → Prop where
  | intro {c : Curve} {point : c.Point} {algorithm hashAlgorithm : Algorithm} {first second : Bytes}
      (isHash : hashAlgorithm.isHash = true) (misnamed : algorithm ≠ .ecdsa) :
      Misnames (elliptic c point) ⟨algorithm, hashAlgorithm, .ecdsa first second⟩

/-- The fault of a signature that does not agree with a key. A hash that is none comes first;
the name of the scheme is looked at only where an RSA key meets a string. -/
def misfit (key : AttestationKey) (s : Signature) : SignatureFault :=
  if s.hashAlgorithm.isHash then
    match key, s.data with
    | rsa _, .rsa _ => .notAnRsaScheme s.algorithm
    | _, _ => .wrongKey s.algorithm key.algorithmName
  else .notAHash s.hashAlgorithm

variable {key : AttestationKey} {s : Signature} {message : Bytes}

/-! ### Refusals -/

/-- A string is checked with an RSA key only if the signature names one of the two schemes for
such keys. -/
theorem checkString_eq_notAnRsaScheme {rsaKey : RsaKey} {algorithm : Algorithm}
    {hash : HashAlgorithm} {digest octets : Bytes} (hSsa : algorithm ≠ .rsassa)
    (hPss : algorithm ≠ .rsapss) :
    checkString rsaKey algorithm hash digest octets = .error (.notAnRsaScheme algorithm) := by
  cases algorithm with
  | rsassa => exact absurd rfl hSsa
  | rsapss => exact absurd rfl hPss
  | _ => rfl

/-- **Signatures that do not agree are refused**, if they do not misname their scheme, and the
fault depends neither on the message nor on what the scheme made. -/
theorem check_eq_error_misfit (hAgrees : ¬ key.Agrees s) (hMisnames : ¬ key.Misnames s) :
    key.check s message = .error (key.misfit s) := by
  obtain ⟨algorithm, hashAlgorithm, data⟩ := s
  cases hHash : hashAlgorithm.hash? with
  | none => simp only [check, misfit, Algorithm.isHash, hHash, Option.isSome_none,
      Bool.false_eq_true, if_false]
  | some hash =>
      have hIsHash : hashAlgorithm.isHash = true := by
        rw [Algorithm.isHash, hHash, Option.isSome_some]
      simp only [check, misfit, hHash, hIsHash, if_true]
      cases key with
      | elliptic c point =>
          cases data with
          | rsa octets => rfl
          | ecdsa first second =>
              -- Such a signature agrees or misnames its scheme, according to the name.
              by_cases hName : algorithm = .ecdsa
              · subst hName
                exact absurd (.ecdsa hIsHash) hAgrees
              · exact absurd (.intro hIsHash hName) hMisnames
      | rsa rsaKey =>
          cases data with
          | rsa octets =>
              refine checkString_eq_notAnRsaScheme ?_ ?_
              · rintro rfl
                exact hAgrees (.rsassa hIsHash)
              · rintro rfl
                exact hAgrees (.rsapss hIsHash)
          | ecdsa first second => rfl

/-! ### Misnamed schemes -/

/-- Under the proper name, a signature that misnames its scheme agrees. -/
theorem Misnames.agrees (h : key.Misnames s) : key.Agrees { s with algorithm := .ecdsa } := by
  obtain ⟨isHash, -⟩ := h
  exact .ecdsa isHash

/-- A signature that misnames its scheme does not agree with the key. -/
theorem Misnames.not_agrees (h : key.Misnames s) : ¬ key.Agrees s := by
  obtain ⟨-, misnamed⟩ := h
  rintro ⟨⟩
  exact misnamed rfl

/-- The **name is not looked at** where a key on a curve meets two integers. -/
theorem Misnames.check_eq (h : key.Misnames s) (message : Bytes) :
    key.check s message = key.check { s with algorithm := .ecdsa } message := by
  obtain ⟨-, -⟩ := h
  rfl

/-- What is decoded does not misname its scheme. -/
theorem not_misnames_of_encodable (hs : s.Encodable) : ¬ key.Misnames s := by
  rintro ⟨-, misnamed⟩
  exact misnamed hs.dataFits.1

/-! ### Acceptance -/

/-- A signature that is **accepted** agrees with the key, or misnames its scheme. -/
theorem agrees_or_misnames_of_check (h : key.check s message = .ok ()) :
    key.Agrees s ∨ key.Misnames s := by
  by_contra hNeither
  obtain ⟨hAgrees, hMisnames⟩ := not_or.mp hNeither
  rw [check_eq_error_misfit hAgrees hMisnames] at h
  cases h

/-- **Which signatures are accepted although they do not agree** with the key: those that
misname their scheme and would have been accepted under its proper name, under which they
agree. Any other signature that does not agree is refused for that reason. A signature that was
decoded agrees when it is accepted. -/
theorem check_agreement (key : AttestationKey) (s : Signature) (message : Bytes) :
    (key.check s message = .ok () ∧ ¬ key.Agrees s ↔
      key.Misnames s ∧ key.check { s with algorithm := .ecdsa } message = .ok ()) ∧
    (key.Misnames s → key.Agrees { s with algorithm := .ecdsa }) ∧
    (¬ key.Agrees s → ¬ key.Misnames s → key.check s message = .error (key.misfit s)) ∧
    ∀ raw, Signature.decode raw = .ok s → key.check s message = .ok () → key.Agrees s := by
  refine ⟨⟨?_, ?_⟩, Misnames.agrees, check_eq_error_misfit, fun raw hDecode hCheck => ?_⟩
  · rintro ⟨hCheck, hAgrees⟩
    have hMisnames := (agrees_or_misnames_of_check hCheck).resolve_left hAgrees
    exact ⟨hMisnames, hMisnames.check_eq message ▸ hCheck⟩
  · rintro ⟨hMisnames, hCheck⟩
    exact ⟨(hMisnames.check_eq message).trans hCheck, hMisnames.not_agrees⟩
  · have hEncodable := (Signature.decode_eq_ok_iff.mp hDecode).1
    exact (agrees_or_misnames_of_check hCheck).resolve_right (not_misnames_of_encodable hEncodable)

end AttestationKey

/-! ### A signature under another name -/

namespace OtherName

/-- A message of one octet. Its digest is the first coordinate of a point. -/
def message : Bytes :=
  [0]

/-- The key is what the base point lacks to that point, so the digest as both integers signs
the message: the sum to be checked is that of the base point and the key. -/
def key : AttestationKey :=
  .elliptic .p256
    { x := 0x82ac2eec7a72ac40bc4bbd8b885530620755e3ac4e15d121c491ab4e9257f108
      y := 0x2158d1a997b199ebfdcb727bb977b8be8f9f27f7e5c7c60c61fbbea43f0e7de9
      onCurve := by decide +kernel }

/-- The signature, under the name of an RSA scheme. -/
def signature : Signature where
  algorithm := .rsassa
  hashAlgorithm := .sha256
  data := .ecdsa (HashAlgorithm.sha256.digest message) (HashAlgorithm.sha256.digest message)

/-- The signature is accepted, though it names a scheme for RSA keys. -/
theorem check : key.check signature message = .ok () := by
  decide +kernel

/-- The signature is a pair of integers under the name of a scheme for RSA keys. -/
theorem misnames : key.Misnames signature :=
  .intro rfl nofun

end OtherName

/-- A signature that misnames its scheme is accepted, and so it is under the proper name. -/
theorem AttestationKey.check_agreement_of_other_name :
    ¬ OtherName.key.Agrees OtherName.signature ∧
      OtherName.key.check OtherName.signature OtherName.message = .ok () ∧
        OtherName.key.check { OtherName.signature with algorithm := .ecdsa } OtherName.message =
          .ok () := by
  have hAgrees := OtherName.misnames.not_agrees
  have hAccepted := (check_agreement OtherName.key OtherName.signature OtherName.message).1.mp
    ⟨OtherName.check, hAgrees⟩
  exact ⟨hAgrees, OtherName.check, hAccepted.2⟩

/-- A signature may be accepted **although it does not agree** with the key. -/
theorem AttestationKey.check_not_agreeing :
    ¬ ∀ (key : AttestationKey) (s : Signature) (message : Bytes),
      key.check s message = .ok () → key.Agrees s :=
  fun h => OtherName.misnames.not_agrees (h _ _ _ OtherName.check)

end RemoteAttestation
