import RemoteAttestation.Proofs.Pcr.Bitmap
import RemoteAttestation.Quote.Request

/-!
# What Can Be Requested

A request carries the proof of what its parts must be, so whatever is built has it. The other
way round, parts that are so (`QuoteRequest.Requestable`) always make a request, and the fault
of others is that of the nonce if there is one, and one of the selections if not.

A selection must name something and use a bank of its own. Whether the bank is one of a hash
and has the selected indices is not asked again: a selection that an operator makes is so
already, but one that was taken from a bitmap may be of any algorithm and name any index, and
it is requested all the same.

## Main results

* `QuoteRequest.build_eq_ok_iff`: a request is built from its own parts, and from no others.
* `QuoteRequest.build_outcome`: what is built and what is not, and which kind of fault it has.
* `QuoteRequest.build_not_validating`: an index that no bank has can be requested.
-/

namespace RemoteAttestation

namespace QuoteRequest

variable {keyHandle : UInt32} {nonce : Bytes} {selections : List Selection} {scheme : Scheme}

/-- The parts of which a request can be made. -/
structure Requestable (nonce : Bytes) (selections : List Selection) : Prop where
  /-- The nonce has a size that a TPM takes. -/
  nonce_size : 1 ≤ nonce.length ∧ nonce.length ≤ maxNonce
  /-- There is a bank. -/
  ne_nil : selections ≠ []
  /-- Each bank has an index. -/
  inhabited : ∀ s ∈ selections, s.indices ≠ []
  /-- No bank is repeated. -/
  banks_nodup : (selections.map Selection.bank).Nodup

/-- A request can be made of the parts of any **request**. -/
theorem requestable (request : QuoteRequest) : Requestable request.nonce request.selections where
  nonce_size := request.nonce_size
  ne_nil := request.selections_ne_nil
  inhabited s hs := Selection.isEmpty_eq_false_iff.mp (request.selections_inhabited s hs)
  banks_nodup := request.banks_nodup

/-- A request is built from **its own parts**, and from no others. -/
theorem build_eq_ok_iff {request : QuoteRequest} :
    build keyHandle nonce selections scheme = .ok request ↔
      request.keyHandle = keyHandle ∧ request.nonce = nonce ∧ request.selections = selections ∧
        request.scheme = scheme := by
  constructor
  · intro h
    rw [build] at h
    split at h
    · cases h
    · split at h
      · cases h
      · split at h
        · cases h
        · obtain rfl := Except.ok.inj h
          exact ⟨rfl, rfl, rfl, rfl⟩
  · rintro ⟨rfl, rfl, rfl, rfl⟩
    rw [build]
    split
    case h_1 fault hNonce =>
      rw [nonceFault?_eq_none_iff.mpr request.nonce_size] at hNonce
      cases hNonce
    case h_2 hNonce =>
      rw [dif_neg request.selections_ne_nil]
      split
      case h_1 fault hBanks =>
        rw [bankFault?_eq_none_iff.mpr ⟨request.selections_inhabited, request.banks_nodup,
          fun s _ => List.not_mem_nil⟩] at hBanks
        cases hBanks
      case h_2 hBanks => rfl

/-- A request can be built of **requestable** parts, and of no others. -/
theorem exists_build_eq_ok_iff :
    (∃ request, build keyHandle nonce selections scheme = .ok request) ↔
      Requestable nonce selections := by
  constructor
  · rintro ⟨request, hBuild⟩
    obtain ⟨-, rfl, rfl, -⟩ := build_eq_ok_iff.mp hBuild
    exact request.requestable
  · intro h
    exact ⟨⟨keyHandle, nonce, selections, scheme, h.nonce_size, h.ne_nil,
      fun s hs => Selection.isEmpty_eq_false_iff.mpr (h.inhabited s hs), h.banks_nodup⟩,
      build_eq_ok_iff.mpr ⟨rfl, rfl, rfl, rfl⟩⟩

/-- The fault is that of **the nonce** whenever the nonce has one. -/
theorem exists_build_eq_nonce_iff :
    (∃ fault, build keyHandle nonce selections scheme = .error (.nonce fault)) ↔
      ¬ (1 ≤ nonce.length ∧ nonce.length ≤ maxNonce) := by
  rw [← nonceFault?_eq_none_iff, build]
  split
  case h_1 fault hNonce => simp [hNonce]
  case h_2 hNonce =>
    simp only [hNonce, not_true, iff_false, not_exists]
    intro fault h
    split at h
    · cases h
    · split at h <;> cases h

/-- The fault is one of **the selections** when the nonce has none. -/
theorem exists_build_eq_selection_iff :
    (∃ fault, build keyHandle nonce selections scheme = .error (.selection fault)) ↔
      (1 ≤ nonce.length ∧ nonce.length ≤ maxNonce) ∧ ¬ Requestable nonce selections := by
  have hNonce := (@exists_build_eq_nonce_iff keyHandle nonce selections scheme).not_left
  rw [← @exists_build_eq_ok_iff keyHandle nonce selections scheme, ← hNonce]
  rcases build keyHandle nonce selections scheme with (_ | _) | _ <;> simp

/-- **What is built of which parts.** A request has the parts of which it is built. There is
one just when the nonce has a size that a TPM takes and the selections are some, each with an
index and none with the bank of another; a fault is that of the nonce if its size is wrong, and
one of the selections in all other cases. When the banks have the selected indices too, the
selections are just valid ones. -/
theorem build_outcome (keyHandle : UInt32) (nonce : Bytes) (selections : List Selection)
    (scheme : Scheme) :
    (∀ request, build keyHandle nonce selections scheme = .ok request ↔
      request.keyHandle = keyHandle ∧ request.nonce = nonce ∧ request.selections = selections ∧
        request.scheme = scheme) ∧
    ((∃ request, build keyHandle nonce selections scheme = .ok request) ↔
      Requestable nonce selections) ∧
    ((∃ request, build keyHandle nonce selections scheme = .ok request) ∧
        (∀ s ∈ selections, s.InBank) ↔
      (1 ≤ nonce.length ∧ nonce.length ≤ maxNonce) ∧ selections ≠ [] ∧
        (∀ s ∈ selections, s.Valid) ∧ (selections.map Selection.bank).Nodup) ∧
    ((∃ fault, build keyHandle nonce selections scheme = .error (.nonce fault)) ↔
      ¬ (1 ≤ nonce.length ∧ nonce.length ≤ maxNonce)) ∧
    ((∃ fault, build keyHandle nonce selections scheme = .error (.selection fault)) ↔
      (1 ≤ nonce.length ∧ nonce.length ≤ maxNonce) ∧ ¬ Requestable nonce selections) := by
  refine ⟨fun request => build_eq_ok_iff, exists_build_eq_ok_iff, ?_, exists_build_eq_nonce_iff,
    exists_build_eq_selection_iff⟩
  rw [exists_build_eq_ok_iff]
  constructor
  · rintro ⟨⟨hNonce, hNil, hInhabited, hNodup⟩, hInBank⟩
    have hValid : ∀ s ∈ selections, s.Valid := fun s hs =>
      Selection.valid_iff.mpr ⟨hInBank s hs, hInhabited s hs⟩
    exact ⟨hNonce, hNil, hValid, hNodup⟩
  · rintro ⟨hNonce, hNil, hValid, hNodup⟩
    have hEach : ∀ s ∈ selections, s.InBank ∧ s.indices ≠ [] := fun s hs =>
      Selection.valid_iff.mp (hValid s hs)
    exact ⟨⟨hNonce, hNil, fun s hs => (hEach s hs).2, hNodup⟩, fun s hs => (hEach s hs).1⟩

/-- An index that **no bank has** can be requested. -/
theorem build_not_validating :
    ¬ ∀ (keyHandle : UInt32) (nonce : Bytes) (selections : List Selection) (scheme : Scheme),
      (∃ request, build keyHandle nonce selections scheme = .ok request) ↔
        (1 ≤ nonce.length ∧ nonce.length ≤ maxNonce) ∧ selections ≠ [] ∧
          (∀ s ∈ selections, s.Valid) ∧ (selections.map Selection.bank).Nodup := by
  intro h
  have hIndex : 24 ∈ (Selection.ofBitmap .sha256 [0, 0, 0, 1]).indices := by decide +kernel
  have hBuilt := (h 0x81010006 [1, 2, 3, 4, 5, 6, 7, 8] [.ofBitmap .sha256 [0, 0, 0, 1]] .null).mp
    (exists_build_eq_ok_iff.mpr ⟨by decide, List.cons_ne_nil _ _,
      List.forall_mem_singleton.mpr (List.ne_nil_of_mem hIndex), List.nodup_singleton _⟩)
  have hValid := List.forall_mem_singleton.mp hBuilt.2.2.1
  exact absurd ((Selection.valid_iff.mp hValid).1.lt_pcrCount 24 hIndex) (by decide)

end QuoteRequest

end RemoteAttestation
