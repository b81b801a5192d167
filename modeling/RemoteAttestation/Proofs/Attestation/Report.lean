import RemoteAttestation.Attestation
import RemoteAttestation.Proofs.Algorithm
import RemoteAttestation.Proofs.Bytes.Hex
import RemoteAttestation.Proofs.Json.Distinct
import RemoteAttestation.Proofs.Pcr.Selection
import RemoteAttestation.Proofs.Wire.Grammar

/-!
# Reports of Attestations

The report is all that an operator sees of an attestation, so two attestations that differ must
not look alike. Each field has a member of its own in the report, and is written there in a way
that nothing else of its kind is written: strings digit by digit, marks and versions in their
full width, counters as they are, and a selection by the name of its bank and the list of its
indices. What is laid out is the report and nothing else, so the text tells the attestation.

## Main results

* `Attestation.selectionReport_inj`, `Attestation.clockReport_inj`: the parts of a report.
* `Attestation.report_inj`: the report of an attestation is that of no other.
* `Attestation.pretty_report_inj`: neither is its text.
-/

namespace RemoteAttestation.Attestation

/-- The report of a selection is that of **no other selection**. -/
theorem selectionReport_inj {s t : Selection} : selectionReport s = selectionReport t ↔ s = t := by
  constructor
  · intro h
    simp only [selectionReport, Json.object.injEq, List.cons.injEq, Prod.mk.injEq,
      Json.string.injEq, Json.array.injEq, true_and, and_true] at h
    obtain ⟨hName, hIndices⟩ := h
    have hNumber : Function.Injective fun index : UInt8 => Json.number index.toNat :=
      fun _ _ hSame => UInt8.toNat_inj.mp (Json.number.inj hSame)
    have hSet : s.indices = t.indices := hNumber.list_map hIndices
    exact Selection.ext_mem (Algorithm.name_inj hName) fun index => by rw [hSet]
  · rintro rfl
    rfl

/-- The report of a clock is that of **no other clock**. -/
theorem clockReport_inj {c d : ClockInfo} : clockReport c = clockReport d ↔ c = d := by
  constructor
  · intro h
    simp only [clockReport, Json.object.injEq, List.cons.injEq, Prod.mk.injEq, Json.number.injEq,
      Json.bool.injEq, true_and, and_true, UInt64.toNat_inj, UInt32.toNat_inj] at h
    rwa [ClockInfo.mk.injEq]
  · rintro rfl
    rfl

/-- The report of an attestation is that of **no other attestation**. -/
theorem report_inj {a b : Attestation} : report a = report b ↔ a = b := by
  constructor
  · intro h
    simp only [report, Json.object.injEq, List.cons.injEq, Prod.mk.injEq, Json.string.injEq,
      Json.array.injEq, true_and, and_true, Hex.encode_inj, Wire.u16_inj, Wire.u32_inj,
      Wire.u64_inj, clockReport_inj] at h
    obtain ⟨hMagic, hKind, hSigner, hData, hClock, hFirmware, hReports, hDigest⟩ := h
    have hInjective : Function.Injective selectionReport := fun _ _ => selectionReport_inj.mp
    have hSelections : a.selections = b.selections := hInjective.list_map hReports
    rw [Attestation.mk.injEq]
    exact ⟨hMagic, hKind, hSigner, hData, hClock, hFirmware, hSelections, hDigest⟩
  · rintro rfl
    rfl

/-- **The text of a report** is that of no other attestation: an operator who sees the same
text twice was shown the same attestation twice. -/
theorem pretty_report_inj (a b : Attestation) : a.report.pretty = b.report.pretty ↔ a = b :=
  Json.pretty_inj.trans report_inj

end RemoteAttestation.Attestation
