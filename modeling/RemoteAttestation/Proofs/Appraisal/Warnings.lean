import Mathlib.Data.List.Forall2
import RemoteAttestation.Appraisal.Basic
import RemoteAttestation.Proofs.Signature

/-!
# What an Operator Is Warned Of

An operator who sees a quote rejected has to learn from the warnings which checks it failed. A
warning **reports** a check when it opens with a text that belongs to the check
(`Check.openings`). No such text is the beginning of one that belongs to another check, so a
warning reports one check at most (`Check.Reports.unique`).

Each check then has to give rise to one warning when it fails and to none when it succeeds
(`WarnsOf`), and the warnings of an appraisal are those of its checks, one after the other. The
check of the signature has a fault that is passed over in silence: that the signature has no
hash. A signature that was decoded has one (`Signature.Encodable.isHash`), so the silence is
never kept.

## Main results

* `Check.Reports.unique`: a warning reports one check at most.
* `AttestationKey.check_ne_notAHash`: the check of a decoded signature has no silent fault.
* `verify_warnings`: the failed checks are reported in their order, and nothing else is.
-/

namespace RemoteAttestation

/-- Whether a notice is a warning. -/
def Notice.isWarning (notice : Notice) : Bool :=
  notice.level = .warn

namespace Check

/-- The texts with which the warnings of a check **open**. -/
def openings : Check → List String
  | nonce => ["Quote nonce mismatch: extraData "]
  | pcrDigest => ["Quote covers no PCRs", "Quote does not cover expected PCR ", "pcrDigest is ",
      "No expected value for PCR ", "PCR digest mismatch: quote "]
  | signature => ["Quote signature verification failed: "]

/-- A notice **reports** a check when it is a warning and opens with a text of the check. -/
def Reports (check : Check) (notice : Notice) : Prop :=
  notice.isWarning = true ∧ ∃ opening ∈ check.openings, opening.toList <+: notice.text.toList

/-- No opening begins like one of **another check**, so a warning is about one check. -/
theorem eq_of_prefix_openings {check check' : Check} :
    ∀ opening ∈ check.openings, ∀ opening' ∈ check'.openings,
      opening.toList <+: opening'.toList → check = check' := by
  cases check <;> cases check' <;> decide +kernel

/-- A warning reports **one** check at most. -/
theorem Reports.unique {check check' : Check} {notice : Notice} (h : check.Reports notice)
    (h' : check'.Reports notice) : check = check' := by
  obtain ⟨-, opening, hMem, hPrefix⟩ := h
  obtain ⟨-, opening', hMem', hPrefix'⟩ := h'
  rcases List.prefix_or_prefix_of_prefix hPrefix hPrefix' with hLe | hGe
  · exact eq_of_prefix_openings opening hMem opening' hMem' hLe
  · exact (eq_of_prefix_openings opening' hMem' opening hMem hGe).symm

/-- A warning with nothing behind the opening of a check is about this check. -/
theorem reports_opening {check : Check} {opening : String} (h : opening ∈ check.openings) :
    check.Reports ⟨.warn, opening⟩ :=
  ⟨rfl, opening, h, List.prefix_refl _⟩

/-- Whatever a text goes on with, it reports what it opens with. -/
theorem Reports.append {check : Check} {text : String} (h : check.Reports ⟨.warn, text⟩)
    (rest : String) : check.Reports ⟨.warn, text ++ rest⟩ := by
  obtain ⟨hWarning, opening, hMem, hPrefix⟩ := h
  refine ⟨hWarning, opening, hMem, hPrefix.trans ?_⟩
  rw [String.toList_append]
  exact List.prefix_append _ _

/-- The check, if it failed. -/
def ifFailed (check : Check) (passed : Bool) : List Check :=
  if passed then [] else [check]

end Check

/-- The checks that failed, one after the other. -/
theorem Verdict.failedChecks_eq (v : Verdict) :
    v.failedChecks = Check.nonce.ifFailed v.nonceMatches ++
      Check.pcrDigest.ifFailed v.pcrDigestMatches ++ Check.signature.ifFailed v.signatureValid := by
  obtain ⟨nonce, digest, signature⟩ := v
  cases nonce <;> cases digest <;> cases signature <;> rfl

/-- A verdict is positive just when no check failed. -/
theorem Verdict.overall_iff_failedChecks_eq_nil (v : Verdict) :
    v.overall = true ↔ v.failedChecks = [] := by
  obtain ⟨nonce, digest, signature⟩ := v
  cases nonce <;> cases digest <;> cases signature <;> decide

/-- The **warnings** among some notices. -/
def Notice.warnings (notices : List Notice) : List Notice :=
  notices.filter Notice.isWarning

/-- The warnings report these checks, **one each** and in this order. -/
def WarnsOf (checks : List Check) (notices : List Notice) : Prop :=
  List.Forall₂ Check.Reports checks (Notice.warnings notices)

/-- The warnings of two groups of checks, one group after the other. -/
theorem WarnsOf.append {checks checks' : List Check} {notices notices' : List Notice}
    (h : WarnsOf checks notices) (h' : WarnsOf checks' notices') :
    WarnsOf (checks ++ checks') (notices ++ notices') := by
  rw [WarnsOf, Notice.warnings, List.filter_append]
  exact List.rel_append h h'

/-- Notices without a warning among them warn of no check. -/
theorem WarnsOf.debug {notices : List Notice}
    (h : ∀ notice ∈ notices, notice.isWarning = false) : WarnsOf [] notices := by
  have hNone : Notice.warnings notices = [] := List.filter_eq_nil_iff.mpr fun notice hMem => by
    rw [h notice hMem]
    exact Bool.false_ne_true
  rw [WarnsOf, hNone]
  exact .nil

/-- A single warning warns of the check that it is about. -/
theorem WarnsOf.warning {check : Check} {notice : Notice} (h : check.Reports notice) :
    WarnsOf [check] [notice] := by
  rw [WarnsOf, Notice.warnings, List.filter_cons_of_pos h.1]
  exact .cons h .nil

/-! ### The faults -/

/-- What is told of a nonce that does not match is about the nonce. -/
theorem NonceMismatch.reports_notice (fault : NonceMismatch) : Check.nonce.Reports fault.notice :=
  ((Check.reports_opening List.mem_cons_self).append _).append _ |>.append _

theorem DigestFault.reports_notice (fault : DigestFault) :
    Check.pcrDigest.Reports fault.notice := by
  cases fault with
  | nothingSelected => exact Check.reports_opening (by decide)
  | notSelected slot => exact (Check.reports_opening (by decide)).append _
  | unknownHash size => exact ((Check.reports_opening (by decide)).append _).append _
  | notExpected slot => exact (Check.reports_opening (by decide)).append _
  | mismatch found expected =>
      exact (((Check.reports_opening (by decide)).append _).append _).append _

/-- Each fault of a signature is reported, but for that of having no hash. -/
theorem SignatureFault.warnsOf_notices {fault : SignatureFault}
    (h : ∀ algorithm, fault ≠ .notAHash algorithm) : WarnsOf [.signature] fault.notices := by
  have hReports : Check.signature.Reports
      ⟨.warn, "Quote signature verification failed: " ++ fault.message⟩ :=
    (Check.reports_opening List.mem_cons_self).append _
  cases fault with
  | notAHash algorithm => exact absurd rfl (h algorithm)
  | _ => exact .warning hReports

/-! ### The checks -/

namespace AttestationKey

/-- A pair of integers is never refused for want of a hash, since the hash is found before. -/
theorem checkIntegers_ne_notAHash {c : Curve} {point : c.Point} {digest r s : Bytes}
    (algorithm : Algorithm) : checkIntegers c point digest r s ≠ .error (.notAHash algorithm) := by
  rw [checkIntegers]
  cases Bytes.fit c.width r with
  | error fault => exact nofun
  | ok r =>
      cases Bytes.fit c.width s with
      | error fault => exact nofun
      | ok s =>
          change (if Ecdsa.verify c point digest r.value s.value then _ else _) ≠ _
          split <;> exact nofun

theorem checkString_ne_notAHash {key : RsaKey} {scheme : Algorithm} {hash : HashAlgorithm}
    {digest octets : Bytes} (algorithm : Algorithm) :
    checkString key scheme hash digest octets ≠ .error (.notAHash algorithm) := by
  rw [checkString.eq_def]
  split
  · split <;> exact nofun
  · split <;> exact nofun
  · exact nofun

/-- The check of a signature **with a hash** has no fault that is passed over in silence. -/
theorem check_ne_notAHash {key : AttestationKey} {s : Signature} {message : Bytes}
    (h : s.hashAlgorithm.isHash = true) (algorithm : Algorithm) :
    key.check s message ≠ .error (.notAHash algorithm) := by
  obtain ⟨hash, hHash⟩ := Option.isSome_iff_exists.mp h
  rw [check, hHash]
  dsimp only
  split
  · exact checkIntegers_ne_notAHash algorithm
  · exact checkString_ne_notAHash algorithm
  · exact nofun

end AttestationKey

/-- A check that gives rise to a notice when it fails is reported when it fails. -/
theorem Appraisal.warnsOf_faultNotices {ε : Type} {check : Check} {notice : ε → Notice}
    (h : ∀ fault, check.Reports (notice fault)) (result : Except ε Unit) :
    WarnsOf (check.ifFailed result.isOk) (faultNotices notice result) := by
  cases result with
  | ok => exact .debug (List.forall_mem_nil _)
  | error fault => exact .warning (h fault)

/-- A signature that is refused for **anything but its hash** is warned of. -/
theorem AttestationKey.warnsOf_checkNotices {key : AttestationKey} {s : Signature}
    {result : Except SignatureFault Unit}
    (h : ∀ algorithm, result ≠ .error (.notAHash algorithm)) :
    WarnsOf (Check.signature.ifFailed result.isOk) (key.checkNotices s result) := by
  cases result with
  | ok => exact .debug (List.forall_mem_singleton.mpr rfl)
  | error fault =>
      exact SignatureFault.warnsOf_notices fun algorithm hFault => h algorithm (hFault ▸ rfl)

/-- The warnings of an appraisal report its failed checks. -/
theorem warnsOf_verifyDecoded {raw nonce : Bytes} {a : Attestation} {s : Signature}
    {expected : PcrValues} {key : AttestationKey} (h : s.hashAlgorithm.isHash = true) :
    WarnsOf (verifyDecoded raw a s nonce expected key).result.failedChecks
      (verifyDecoded raw a s nonce expected key).notices := by
  rw [Verdict.failedChecks_eq, ← List.append_nil (_ ++ _)]
  refine (WarnsOf.append (WarnsOf.append ?_ ?_) ?_).append ?_
  · exact Appraisal.warnsOf_faultNotices NonceMismatch.reports_notice _
  · exact Appraisal.warnsOf_faultNotices DigestFault.reports_notice _
  · exact AttestationKey.warnsOf_checkNotices (AttestationKey.check_ne_notAHash h)
  · exact .debug (List.forall_mem_singleton.mpr rfl)

/-- **Every failed check is reported exactly once.** If a quote has a verdict, its warnings
report the checks that failed, one each and in the order of the checks, so the verdict is
positive just when there is no warning. If the quote has no verdict, there is no warning. -/
theorem verify_warnings (raw rawSignature nonce : Bytes) (expected : PcrValues)
    (key : AttestationKey) :
    match (verify raw rawSignature nonce expected key).result with
    | .ok v =>
      List.Forall₂ Check.Reports v.failedChecks
        (Notice.warnings (verify raw rawSignature nonce expected key).notices) ∧
      (v.overall = true ↔ Notice.warnings (verify raw rawSignature nonce expected key).notices = [])
    | .error _ => Notice.warnings (verify raw rawSignature nonce expected key).notices = [] := by
  rw [verify]
  cases Attestation.decode raw with
  | error fault => rfl
  | ok a =>
      cases hSignature : Signature.decode rawSignature with
      | error fault => rfl
      | ok s =>
          obtain ⟨hEncodable, -⟩ := Signature.decode_eq_ok_iff.mp hSignature
          have hReport : WarnsOf (verifyDecoded raw a s nonce expected key).result.failedChecks
              (a.notice :: (verifyDecoded raw a s nonce expected key).notices) :=
            WarnsOf.append (.debug (List.forall_mem_singleton.mpr rfl))
              (warnsOf_verifyDecoded hEncodable.isHash)
          refine ⟨hReport, ?_⟩
          rw [Verdict.overall_iff_failedChecks_eq_nil, ← List.length_eq_zero_iff,
            ← List.length_eq_zero_iff, hReport.length_eq]

end RemoteAttestation
