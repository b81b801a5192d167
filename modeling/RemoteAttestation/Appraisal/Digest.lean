import RemoteAttestation.Attestation
import RemoteAttestation.Hash.Digest
import RemoteAttestation.Pcr.Values
import RemoteAttestation.Signature

/-!
# The Check of the PCR Digest

A quote vouches for exactly the PCRs it selects, so the selected and the expected PCRs must be
the same; in particular there must be some. The digest is then computed again from the expected
values. A TPM uses the hash of the signature's scheme; where the size of the digest does not
fit that hash, the hash of the first bank is tried.

## Main definitions

* `DigestFault`: why the digest does not match.
* `Attestation.digestHash?`: the hash behind the digest of a quote.
* `Attestation.expectedDigest`: the digest that a quote should have.
* `Attestation.checkDigest`: whether it has that digest.
-/

namespace RemoteAttestation

/-- Why the digest of a quote does not match the expected values. -/
inductive DigestFault where
  /-- The quote selects nothing. -/
  | nothingSelected
  /-- A value is expected in a slot that the quote does not select. -/
  | notSelected (slot : Slot)
  /-- The size of the digest fits neither the signature's hash nor the first bank. -/
  | unknownHash (size : Nat)
  /-- No value is expected in a slot that the quote selects. -/
  | notExpected (slot : Slot)
  /-- The values give another digest. -/
  | mismatch (found expected : Bytes)
  deriving Repr, DecidableEq

/-- What the operator is told of a fault. -/
def DigestFault.notice : DigestFault → Notice
  | nothingSelected => ⟨.warn, "Quote covers no PCRs"⟩
  | notSelected slot => ⟨.warn, s!"Quote does not cover expected PCR {slot.name}"⟩
  | unknownHash size => ⟨.warn, s!"pcrDigest is {size} bytes, matching no quoted hash algorithm"⟩
  | notExpected slot => ⟨.warn, s!"No expected value for PCR {slot.name}"⟩
  | mismatch found expected =>
    ⟨.warn, s!"PCR digest mismatch: quote {Hex.encode found}, expected {Hex.encode expected}"⟩

namespace Attestation

/-- Whether a quote selects a slot. -/
def selects (a : Attestation) (slot : Slot) : Bool :=
  a.selections.any fun s => s.bank == slot.bank && s.contains slot.index

/-- The **hash** behind the digest of a quote: that of the signature, or else that of the first
bank, whichever fits the size of the digest first. -/
def digestHash? (a : Attestation) (s : Signature) : Option HashAlgorithm :=
  let candidates := s.hashAlgorithm :: (a.selections.head?.map Selection.bank).toList
  (candidates.filterMap Algorithm.hash?).find? (·.size == a.pcrDigest.length)

/-- The **digest** that a quote should have, given the values that are expected. -/
def expectedDigest (a : Attestation) (s : Signature) (expected : PcrValues) :
    Except DigestFault Bytes :=
  if a.selections.all Selection.isEmpty then .error .nothingSelected
  else match expected.toList.find? fun (slot, _) => !a.selects slot with
    | some (slot, _) => .error (.notSelected slot)
    | none =>
      match a.digestHash? s with
      | none => .error (.unknownHash a.pcrDigest.length)
      | some hash =>
        match expected.concat a.selections with
        | .error slot => .error (.notExpected slot)
        | .ok values => .ok (hash.digest values)

/-- The **check** of a quote's digest against the values that are expected. -/
def checkDigest (a : Attestation) (s : Signature) (expected : PcrValues) :
    Except DigestFault Unit :=
  match a.expectedDigest s expected with
  | .error fault => .error fault
  | .ok digest => if digest = a.pcrDigest then .ok () else .error (.mismatch a.pcrDigest digest)

end Attestation

end RemoteAttestation
