import RemoteAttestation.Proofs.Attestation
import RemoteAttestation.Proofs.Pcr.Spelling

/-!
# Spellings of Attestations

The grammar of attestations field by field. All fields have a fixed place and a single form,
except that the entries of the list of selections may have bitmaps of any length up to four. So
a string that is decoded is known from the attestation and from the entries as they are spelled
(`Attestation.spell`), and what two such strings of one attestation can differ in are the
lengths of the bitmaps and the zeros behind them.

## Main results

* `Attestation.form_iff_spelled`: the strings of the grammar are the spellings.
* `Attestation.decode_grammar`: what is decoded, how far it is unique, and when it is written
  back.
-/

namespace RemoteAttestation.Attestation

/-- The string that an attestation is with some entries, most significant octets first. -/
def spell (a : Attestation) (entries : List SelectionEntry) : Bytes :=
  Wire.u32 0xFF544347 ++ Wire.u16 0x8018 ++
    Wire.sized a.qualifiedSigner ++ Wire.sized a.extraData ++
    Wire.u64 a.clockInfo.clock ++ Wire.u32 a.clockInfo.resetCount ++
    Wire.u32 a.clockInfo.restartCount ++ Wire.u8 (if a.clockInfo.safe then 1 else 0) ++
    Wire.u64 a.firmwareVersion ++
    Bytes.ofNat 4 entries.length ++ entries.flatMap SelectionEntry.write ++
    Wire.sized a.pcrDigest

/-- A string **spells** an attestation with some entries: a quote with the mark of a TPM,
strings that two octets can count, and at most sixteen entries, each of which describes the
selection in its place. -/
structure Spelled (raw : Bytes) (a : Attestation) (entries : List SelectionEntry) : Prop where
  /-- The attestation is a quote with the mark of a TPM, and its strings are short enough. -/
  encodable : a.Encodable
  /-- There are at most sixteen entries. -/
  length_le : entries.length ≤ 16
  /-- The entries describe the selections one by one. -/
  spells : SelectionList.Spells entries a.selections
  /-- There is nothing else in the string. -/
  raw_eq : raw = a.spell entries

/-- The fields around the list are those that are written. -/
theorem spell_eq {a : Attestation} (h : a.Encodable) (entries : List SelectionEntry) :
    a.spell entries = a.writeHead ++
      (Bytes.ofNat 4 entries.length ++ entries.flatMap SelectionEntry.write) ++
        Wire.sized a.pcrDigest := by
  rw [spell, writeHead, h.magic_eq, h.kind_eq, writeClockInfo, writeFlag, generatedValue, quoteKind]
  simp only [List.append_assoc]

/-- **The strings of the grammar** are the spellings. -/
theorem form_iff_spelled {raw : Bytes} {a : Attestation} :
    Form raw a ↔ ∃ entries, Spelled raw a entries := by
  constructor
  · rintro ⟨hEncodable, list, hList, rfl⟩
    obtain ⟨entries, hLength, hSpells, rfl⟩ := SelectionList.form_iff.mp hList
    exact ⟨entries, hEncodable, hLength, hSpells, (spell_eq hEncodable entries).symm⟩
  · rintro ⟨entries, hEncodable, hLength, hSpells, rfl⟩
    exact ⟨hEncodable, _, SelectionList.form_iff.mpr ⟨entries, hLength, hSpells, rfl⟩,
      spell_eq hEncodable entries⟩

/-- The spelling whose bitmaps have three octets is the one that is written. -/
theorem Spelled.write_eq {raw : Bytes} {a : Attestation} {entries : List SelectionEntry}
    (h : Spelled raw a entries) (hLength : ∀ e ∈ entries, e.bitmap.length = 3) : a.write = raw := by
  rw [h.raw_eq, spell_eq h.encodable, h.spells.flatMap_write_eq hLength, h.spells.length_eq]
  exact a.write_eq

/-- **The grammar of attestations.** A string is decoded just when it spells an attestation,
and to that attestation. Two strings that are decoded to one attestation differ at most in the
lengths of the bitmaps and in the zeros behind them, and one whose bitmaps have three octets is
what is written for the attestation. -/
theorem decode_grammar (raw : Bytes) (a : Attestation) :
    (decode raw = .ok a ↔ ∃ entries, Spelled raw a entries) ∧
    (∀ raw', decode raw = .ok a → decode raw' = .ok a →
      ∃ entries entries', Spelled raw a entries ∧ Spelled raw' a entries' ∧
        List.Forall₂ SelectionEntry.PaddedAlike entries entries') ∧
    ∀ entries, Spelled raw a entries → (∀ e ∈ entries, e.bitmap.length = 3) → a.write = raw := by
  have hDecode : ∀ raw, decode raw = .ok a ↔ ∃ entries, Spelled raw a entries := fun raw =>
    decode_eq_ok_iff.trans form_iff_spelled
  refine ⟨hDecode raw, ?_, fun entries h hLength => h.write_eq hLength⟩
  intro raw' h h'
  obtain ⟨entries, hSpelled⟩ := (hDecode raw).mp h
  obtain ⟨entries', hSpelled'⟩ := (hDecode raw').mp h'
  exact ⟨entries, entries', hSpelled, hSpelled', hSpelled.spells.paddedAlike hSpelled'.spells⟩

/-! ### Two spellings -/

namespace TwoSpellings

/-- A quote of two banks. -/
def attestation : Attestation where
  magic := generatedValue
  kind := quoteKind
  qualifiedSigner := [0x00, 0x0b]
  extraData := [0xbe, 0xef]
  clockInfo := ⟨1000, 1, 2, true⟩
  firmwareVersion := 3
  selections := [.ofIndices .sha256 [0, 7], .ofIndices .sha1 [23]]
  pcrDigest := List.replicate 32 0x5a

/-- The entries with the bitmaps that are written. -/
def written : List SelectionEntry :=
  [.ofBitmap .sha256 [0x81, 0, 0] (by decide) ⟨rfl, by decide +kernel⟩,
    .ofBitmap .sha1 [0, 0, 0x80] (by decide) ⟨rfl, by decide +kernel⟩]

/-- The entries with a bitmap that is shorter and one that is longer. -/
def other : List SelectionEntry :=
  [.ofBitmap .sha256 [0x81] (by decide) ⟨rfl, by decide +kernel⟩,
    .ofBitmap .sha1 [0, 0, 0x80, 0] (by decide) ⟨rfl, by decide +kernel⟩]

/-- The attestation can be written. -/
theorem encodable : attestation.Encodable :=
  ⟨rfl, rfl, by decide, by decide, by decide⟩

/-- The octets with narrow bitmaps are a spelling. -/
theorem spelled_written : Spelled (attestation.spell written) attestation written where
  encodable := encodable
  length_le := by decide
  spells := .cons (SelectionEntry.describes_iff_eq_ofBitmap.mpr (by decide +kernel))
    (.cons (SelectionEntry.describes_iff_eq_ofBitmap.mpr (by decide +kernel)) .nil)
  raw_eq := rfl

theorem spelled_other : Spelled (attestation.spell other) attestation other where
  encodable := encodable
  length_le := by decide
  spells := .cons (SelectionEntry.describes_iff_eq_ofBitmap.mpr (by decide +kernel))
    (.cons (SelectionEntry.describes_iff_eq_ofBitmap.mpr (by decide +kernel)) .nil)
  raw_eq := rfl

end TwoSpellings

open TwoSpellings in
/-- Two strings for one quote, of which the first is the one that is written. -/
theorem decode_grammar_of_two_spellings :
    decode (attestation.spell written) = .ok attestation ∧
    decode (attestation.spell other) = .ok attestation ∧
    (∃ entries entries', Spelled (attestation.spell written) attestation entries ∧
      Spelled (attestation.spell other) attestation entries' ∧
        List.Forall₂ SelectionEntry.PaddedAlike entries entries') ∧
    attestation.write = attestation.spell written := by
  have hWritten := (decode_grammar (attestation.spell written) attestation).1.mpr
    ⟨written, spelled_written⟩
  have hOther := (decode_grammar (attestation.spell other) attestation).1.mpr ⟨other, spelled_other⟩
  refine ⟨hWritten, hOther, (decode_grammar _ _).2.1 _ hWritten hOther, ?_⟩
  exact (decode_grammar _ _).2.2 written spelled_written (by decide)

end RemoteAttestation.Attestation
