import RemoteAttestation.Attestation
import RemoteAttestation.Proofs.Pcr.SelectionList

/-!
# The Grammar of Attestations

An attestation is its fields one after the other and nothing else. All fields but one have a
single form, which is the one that is written; only a list of selections may be spelled in
several ways, by bitmaps with octets that are not needed. So the grammar is that of
`Attestation.write` with any form of the list in its place.

## Main results

* `Attestation.decode_eq_ok_iff`: the strings that are decoded, and the attestations they are.
* `Attestation.decode_write`: a written attestation is read back.
-/

namespace RemoteAttestation.Attestation

/-- What has a **form**: an attestation of a quote, with strings that their lengths can
count. -/
structure Encodable (a : Attestation) : Prop where
  /-- The mark is that of a TPM. -/
  magic_eq : a.magic = generatedValue
  /-- The statement is a quote. -/
  kind_eq : a.kind = quoteKind
  /-- The length of the signer's name fits in two octets. -/
  qualifiedSigner_lt : a.qualifiedSigner.length < 65536
  /-- The length of the nonce fits in two octets. -/
  extraData_lt : a.extraData.length < 65536
  /-- The length of the digest fits in two octets. -/
  pcrDigest_lt : a.pcrDigest.length < 65536

/-- The fields in front of the list of selections. -/
def writeHead (a : Attestation) : Bytes :=
  Wire.u32 a.magic ++ Wire.u16 a.kind ++ Wire.sized a.qualifiedSigner ++ Wire.sized a.extraData ++
    writeClockInfo a.clockInfo ++ Wire.u64 a.firmwareVersion

/-- The octets of an attestation: its fixed part, the list of selections, and the digest. -/
theorem write_eq (a : Attestation) :
    a.write = a.writeHead ++ SelectionList.write a.selections ++ Wire.sized a.pcrDigest := rfl

/-- The form of an **attestation**: its fields in their order. -/
def Form : Grammar Attestation := fun b a =>
  a.Encodable ∧ ∃ list, SelectionList.Form list a.selections ∧
    b = a.writeHead ++ list ++ Wire.sized a.pcrDigest

/-! ### Fields -/

/-- A flag is read from the octet that it is written as. -/
theorem accepts_readFlag : Reader.Accepts readFlag (.written writeFlag) := by
  refine Reader.Accepts.congr (Reader.Accepts.bind (Reader.accepts_u8.orFail _)
    (k := fun octet b flag => b = [] ∧ octet = if flag then 1 else 0) fun octet => ?_)
    fun b flag => ?_
  · split
    · exact (Reader.accepts_pure false).congr fun b flag => by cases flag <;> simp [Grammar.nothing]
    · exact (Reader.accepts_pure true).congr fun b flag => by cases flag <;> simp [Grammar.nothing]
    · rename_i hZero hOne
      refine (Reader.accepts_throw _).congr fun b flag => ⟨False.elim, ?_⟩
      rintro ⟨-, rfl⟩
      cases flag
      · exact hZero rfl
      · exact hOne rfl
  · constructor
    · rintro ⟨octet, _, _, rfl, rfl, rfl, rfl⟩
      exact List.append_nil _
    · rintro rfl
      exact ⟨_, _, [], (List.append_nil _).symm, rfl, rfl, rfl⟩

/-- The clock is read from the octets that it is written as. -/
theorem accepts_readClockInfo : Reader.Accepts readClockInfo (.written writeClockInfo) := by
  refine Reader.Accepts.congr (Reader.Accepts.bind (Reader.accepts_u64.orFail _) fun clock =>
    Reader.Accepts.bind (Reader.accepts_u32.orFail _) fun resets =>
      Reader.Accepts.bind (Reader.accepts_u32.orFail _) fun restarts =>
        Reader.Accepts.bind accepts_readFlag fun safe => Reader.accepts_pure _) fun b c => ?_
  constructor
  · rintro ⟨clock, _, _, rfl, rfl, resets, _, _, rfl, rfl, restarts, _, _, rfl, rfl, safe, _, _,
      rfl, rfl, rfl, rfl⟩
    simp only [Grammar.written, writeClockInfo, List.append_assoc, List.append_nil]
  · rintro rfl
    refine ⟨c.clock, _, _, ?_, rfl, c.resetCount, _, _, rfl, rfl, c.restartCount, _, _, rfl, rfl,
      c.safe, _, [], rfl, rfl, rfl, rfl⟩
    simp only [writeClockInfo, List.append_assoc, List.append_nil]

/-- A field is read from its octets behind a length, which two octets can count. -/
theorem accepts_readField (field : AttestationField) :
    Reader.Accepts (readField field) fun b x => b = Wire.sized x ∧ x.length < 65536 :=
  Reader.accepts_sized.orFail _

/-! ### Attestations -/

/-- The reader accepts the octets of the form, and no others. -/
theorem acceptsAll_read : Reader.AcceptsAll read Form := by
  refine Reader.AcceptsAll.congr (Reader.AcceptsAll.bind (Reader.accepts_u32.orFail _) fun magic =>
    Reader.AcceptsAll.guard _ <| Reader.AcceptsAll.bind (Reader.accepts_u16.orFail _) fun kind =>
      Reader.AcceptsAll.guard _ <| Reader.AcceptsAll.bind (accepts_readField _) fun signer =>
        Reader.AcceptsAll.bind (accepts_readField _) fun extraData =>
          Reader.AcceptsAll.bind accepts_readClockInfo fun clock =>
            Reader.AcceptsAll.bind (Reader.accepts_u64.orFail _) fun firmware =>
              Reader.AcceptsAll.bind (SelectionList.accepts_read.orFail _) fun selections =>
                Reader.AcceptsAll.bind (accepts_readField _) fun digest =>
                  Reader.acceptsAll_end AttestationFault.trailing _) fun b a => ?_
  constructor
  · rintro ⟨magic, _, _, rfl, rfl, hMagic, kind, _, _, rfl, rfl, hKind, signer, _, _, rfl,
      ⟨rfl, hSigner⟩, extraData, _, _, rfl, ⟨rfl, hExtraData⟩, clock, _, _, rfl, rfl, firmware, _,
      _, rfl, rfl, selections, list, _, rfl, hList, digest, _, _, rfl, ⟨rfl, hDigest⟩, rfl, rfl⟩
    refine ⟨⟨not_not.mp hMagic, not_not.mp hKind, hSigner, hExtraData, hDigest⟩, list, hList, ?_⟩
    simp only [writeHead, List.append_assoc, List.append_nil]
  · rintro ⟨⟨hMagic, hKind, hSigner, hExtraData, hDigest⟩, list, hList, rfl⟩
    refine ⟨a.magic, _, _, ?_, rfl, not_not.mpr hMagic, a.kind, _, _, rfl, rfl, not_not.mpr hKind,
      a.qualifiedSigner, _, _, rfl, ⟨rfl, hSigner⟩, a.extraData, _, _, rfl, ⟨rfl, hExtraData⟩,
      a.clockInfo, _, _, rfl, rfl, a.firmwareVersion, _, _, rfl, rfl, a.selections, list, _, rfl,
      hList, a.pcrDigest, _, [], rfl, ⟨rfl, hDigest⟩, rfl, rfl⟩
    simp only [writeHead, List.append_assoc, List.append_nil]

/-- **The strings that are decoded** are those of the grammar, and each is one attestation. -/
theorem decode_eq_ok_iff {raw : Bytes} {a : Attestation} : decode raw = .ok a ↔ Form raw a :=
  acceptsAll_read.parse_eq_ok_iff

/-- **A written attestation is read back** if a TPM can have its banks. -/
theorem decode_write {a : Attestation} (h : a.Encodable) (hLength : a.selections.length ≤ 16)
    (hBanks : ∀ s ∈ a.selections, s.InBank) : decode a.write = .ok a :=
  decode_eq_ok_iff.mpr ⟨h, _, SelectionList.form_write hLength hBanks, a.write_eq⟩

end RemoteAttestation.Attestation
