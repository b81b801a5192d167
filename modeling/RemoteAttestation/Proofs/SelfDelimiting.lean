import RemoteAttestation.Appraisal.Basic
import RemoteAttestation.Proofs.Attestation.Spelling
import RemoteAttestation.Proofs.Signature
import RemoteAttestation.Proofs.Wire.Delimited

/-!
# Attestations and Signatures Find Their Own End

No part of an attestation is an attestation, and neither is an attestation with something
behind it; the same is true of signatures. All integers have fixed widths, every string stands
behind its length, and a list behind its count, so each reader finds its own end. What has been
cut is refused for want of octets and for no other reason, because everything in front of the
cut is read as before.

A decoder that refuses a string makes a verifier refuse it too, as a malformed attestation or
as a malformed signature (`MalformedAttestation`, `MalformedSignature`).

## Main results

* `Attestation.exact_read`, `Signature.exact_read`: the readers need just the data that they accept.
* `decoders_self_delimiting`: what becomes of attestations and signatures that are cut or
  lengthened.
-/

namespace RemoteAttestation

/-! ### Want of octets -/

/-- The fault is a **want of octets**. -/
def SelectionListFault.IsUnderflow : SelectionListFault → Prop
  | underflow _ => True
  | _ => False

/-- The fault is a **want of octets**, in whatever field. -/
def AttestationFault.IsUnderflow : AttestationFault → Prop
  | underflow _ => True
  | fieldUnderflow _ _ => True
  | selectionList fault => fault.IsUnderflow
  | _ => False

/-- The fault is a **want of octets**. -/
def SignatureFormFault.IsUnderflow : SignatureFormFault → Prop
  | underflow _ => True
  | _ => False

/-! ### Lists of selections -/

namespace SelectionList

open Reader

/-- The reader of an entry knows where it ends. -/
theorem delimited_readEntry : Delimited SelectionListFault.IsUnderflow readEntry := by
  refine Delimited.bind (delimited_u16.orFail fun _ _ => trivial) fun id => ?_
  cases (Algorithm.ofId? id).filter Algorithm.isHash with
  | none => exact delimited_throw _
  | some bank =>
      refine Delimited.bind (delimited_u8.orFail fun _ _ => trivial) fun size =>
        Delimited.guard _ <| Delimited.bind ((delimited_take _).orFail fun _ _ => trivial)
          fun bitmap => ?_
      dsimp only
      cases (Selection.ofBitmap bank bitmap).indices.find? (pcrCount ≤ ·) with
      | some index => exact delimited_throw _
      | none => exact delimited_pure _

/-- So does the reader of several entries. -/
theorem delimited_readEntries (n : Nat) :
    Delimited SelectionListFault.IsUnderflow (readEntries n) := by
  induction n with
  | zero => exact delimited_pure []
  | succ n ih =>
      exact delimited_readEntry.bind fun s => ih.bind fun rest => delimited_pure (s :: rest)

/-- So does the reader of a list, whose count stands in front. -/
theorem delimited_read : Delimited SelectionListFault.IsUnderflow read :=
  Delimited.bind (delimited_u32.orFail fun _ _ => trivial) fun count =>
    Delimited.guard _ (delimited_readEntries count.toNat)

end SelectionList

/-! ### Attestations -/

namespace Attestation

open Reader

/-- A flag is one octet. -/
theorem delimited_readFlag : Delimited AttestationFault.IsUnderflow readFlag := by
  refine Delimited.bind (delimited_u8.orFail fun _ _ => trivial) fun octet => ?_
  split
  · exact delimited_pure false
  · exact delimited_pure true
  · exact delimited_throw _

/-- The clock is read from a fixed number of octets. -/
theorem delimited_readClockInfo : Delimited AttestationFault.IsUnderflow readClockInfo :=
  Delimited.bind (delimited_u64.orFail fun _ _ => trivial) fun _ =>
    Delimited.bind (delimited_u32.orFail fun _ _ => trivial) fun _ =>
      Delimited.bind (delimited_u32.orFail fun _ _ => trivial) fun _ =>
        delimited_readFlag.bind fun _ => delimited_pure _

/-- A field says its length. -/
theorem delimited_readField (field : AttestationField) :
    Delimited AttestationFault.IsUnderflow (readField field) :=
  delimited_sized.orFail fun _ _ => trivial

/-- The reader of **attestations** needs just the data that it accepts. -/
theorem exact_read : Exact AttestationFault.IsUnderflow .trailing read :=
  Exact.bind (delimited_u32.orFail fun _ _ => trivial) fun _ =>
    Exact.guard _ <| Exact.bind (delimited_u16.orFail fun _ _ => trivial) fun _ =>
      Exact.guard _ <| Exact.bind (delimited_readField _) fun _ =>
        Exact.bind (delimited_readField _) fun _ =>
          Exact.bind delimited_readClockInfo fun _ =>
            Exact.bind (delimited_u64.orFail fun _ _ => trivial) fun _ =>
              Exact.bind (SelectionList.delimited_read.orFail fun _ h => h) fun _ =>
                Exact.bind (delimited_readField _) fun _ => exact_end _

end Attestation

/-! ### Signatures -/

namespace Signature

open Reader

/-- The reader of the data of a signature knows where they end, with any scheme. -/
theorem delimited_readData (algorithm : Algorithm) :
    Delimited SignatureFormFault.IsUnderflow (readData algorithm) := by
  refine Delimited.bind (delimited_sized.orFail fun _ _ => trivial) fun first => ?_
  split
  · exact Delimited.bind (delimited_sized.orFail fun _ _ => trivial) fun _ => delimited_pure _
  · exact delimited_pure _

/-- The reader of **signatures** needs just the data that it accepts. -/
theorem exact_read : Exact SignatureFormFault.IsUnderflow .trailing read := by
  refine Exact.bind (delimited_u16.orFail fun _ _ => trivial) fun id =>
    Exact.bind (delimited_ofExcept _) fun algorithm =>
      Exact.bind (delimited_u16.orFail fun _ _ => trivial) fun hashId => ?_
  cases (Algorithm.ofId? hashId).filter Algorithm.isHash with
  | none => exact exact_throw _
  | some hash => exact Exact.bind (delimited_readData algorithm) fun _ => exact_end _

end Signature

/-! ### Refusals -/

/-- A string is refused as a **malformed attestation**: it is not decoded, and a verifier of it
says so, whatever the signature and the expectations are. -/
def MalformedAttestation (raw : Bytes) (fault : AttestationFault) : Prop :=
  Attestation.decode raw = .error fault ∧ ∀ rawSignature nonce expected key,
    (verify raw rawSignature nonce expected key).result = .error (.malformedAttestation fault)

/-- A string is refused as a **malformed signature**: it is not decoded, and a verifier of it
says so, whatever the expectations are, when there is an attestation. -/
def MalformedSignature (rawSignature : Bytes) (fault : SignatureFormFault) : Prop :=
  Signature.decode rawSignature = .error fault ∧ ∀ raw a nonce expected key,
    Attestation.decode raw = .ok a →
      (verify raw rawSignature nonce expected key).result = .error (.malformedSignature fault)

/-- An attestation that cannot be decoded is refused as **malformed**, whatever the rest of the
evidence. -/
theorem malformedAttestation_of_decode {raw : Bytes} {fault : AttestationFault}
    (h : Attestation.decode raw = .error fault) : MalformedAttestation raw fault :=
  ⟨h, fun _ _ _ _ => by rw [verify, h]⟩

/-- A signature that cannot be decoded is refused as **malformed**, if the attestation can
be. -/
theorem malformedSignature_of_decode {rawSignature : Bytes} {fault : SignatureFormFault}
    (h : Signature.decode rawSignature = .error fault) : MalformedSignature rawSignature fault :=
  ⟨h, fun _ _ _ _ _ hDecode => by rw [verify, hDecode, h]⟩

/-- **Attestations and signatures find their own end.** With something behind it an attestation
is malformed, and the fault counts the octets that are too many; a proper prefix of it is
malformed for want of octets. The same is true of signatures. A string that is refused at all
is refused as malformed. -/
theorem decoders_self_delimiting :
    (∀ raw a, Attestation.decode raw = .ok a →
      (∀ x ≠ [], MalformedAttestation (raw ++ x) (.trailing x.length)) ∧
      ∀ p : Bytes, p.ProperPrefix raw →
        ∃ fault, MalformedAttestation p fault ∧ fault.IsUnderflow) ∧
    (∀ raw s, Signature.decode raw = .ok s →
      (∀ x ≠ [], MalformedSignature (raw ++ x) (.trailing x.length)) ∧
      ∀ p : Bytes, p.ProperPrefix raw →
        ∃ fault, MalformedSignature p fault ∧ fault.IsUnderflow) ∧
    ∀ raw,
      ((∃ a, Attestation.decode raw = .ok a) ∨ ∃ fault, MalformedAttestation raw fault) ∧
      ((∃ s, Signature.decode raw = .ok s) ∨ ∃ fault, MalformedSignature raw fault) := by
  refine ⟨fun raw a h => ⟨fun x hNe => ?_, fun p hp => ?_⟩,
    fun raw s h => ⟨fun x hNe => ?_, fun p hp => ?_⟩, fun raw => ⟨?_, ?_⟩⟩
  · exact malformedAttestation_of_decode (Attestation.exact_read.parse_append h hNe)
  · obtain ⟨fault, hError, hShort⟩ := Attestation.exact_read.parse_of_properPrefix h hp
    exact ⟨fault, malformedAttestation_of_decode hError, hShort⟩
  · exact malformedSignature_of_decode (Signature.exact_read.parse_append h hNe)
  · obtain ⟨fault, hError, hShort⟩ := Signature.exact_read.parse_of_properPrefix h hp
    exact ⟨fault, malformedSignature_of_decode hError, hShort⟩
  · cases hDecode : Attestation.decode raw with
    | ok a => exact .inl ⟨a, rfl⟩
    | error fault => exact .inr ⟨fault, malformedAttestation_of_decode hDecode⟩
  · cases hDecode : Signature.decode raw with
    | ok s => exact .inl ⟨s, rfl⟩
    | error fault => exact .inr ⟨fault, malformedSignature_of_decode hDecode⟩

open Attestation.TwoSpellings in
/-- A quote of two banks and an elliptic signature, with an octet behind them and cut. -/
theorem decoders_self_delimiting_of_two_banks :
    MalformedAttestation (attestation.spell written ++ [0]) (.trailing 1) ∧
    (∃ fault, MalformedAttestation ((attestation.spell written).take 47) fault ∧
      fault.IsUnderflow) ∧
    MalformedSignature (Signature.write ⟨.ecdsa, .sha256, .ecdsa [1] [2, 3]⟩ ++ [0])
      (.trailing 1) ∧
    ∃ fault, MalformedSignature [] fault ∧ fault.IsUnderflow := by
  have hDecode : Attestation.decode (attestation.spell written) = .ok attestation :=
    Attestation.decode_eq_ok_iff.mpr (Attestation.form_iff_spelled.mpr ⟨_, spelled_written⟩)
  have hSignature : Signature.decode (Signature.write ⟨.ecdsa, .sha256, .ecdsa [1] [2, 3]⟩) =
      .ok ⟨.ecdsa, .sha256, .ecdsa [1] [2, 3]⟩ :=
    Signature.decode_eq_ok_iff.mpr ⟨⟨.inr (.inr rfl), rfl, rfl, by decide, by decide⟩, rfl⟩
  obtain ⟨hMore, hCut⟩ := decoders_self_delimiting.1 _ _ hDecode
  obtain ⟨hMore', hCut'⟩ := decoders_self_delimiting.2.1 _ _ hSignature
  exact ⟨hMore [0] (by decide), hCut _ ⟨List.take_prefix _ _, by decide +kernel⟩,
    hMore' [0] (by decide), hCut' [] ⟨List.nil_prefix, by decide +kernel⟩⟩

end RemoteAttestation
