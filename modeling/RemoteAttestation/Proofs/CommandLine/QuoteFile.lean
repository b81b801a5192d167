import RemoteAttestation.CommandLine.QuoteFile
import RemoteAttestation.Proofs.Bytes.Hex
import RemoteAttestation.Proofs.Json.Usable

/-!
# Quote Files, Printed and Read Back

The attester prints a quote together with the fields of its attestation. The verifier uses
nothing of these fields, but it reads them over, and a file in which they are no usable JSON is
refused. So the fields matter for what comes back: their numbers have to be finite, and their
lists and objects may not be too many inside one another (`Attestation.fits_report`).

## Main results

* `QuoteFile.ofText?_pretty`: a printed file has the texts that it was printed with, whatever the
  attestation beside them.
* `QuoteFile.decode_ofQuote`: these texts stand for the nonce, the attestation and the signature.
-/

namespace RemoteAttestation

/-! ### Fields -/

namespace Attestation

open Json

/-- What is printed of a selection is an object with one list in it. -/
theorem fits_selectionReport (s : Selection) : Fits 2 (selectionReport s) := by
  have hIndices : Fits 1 (.array (s.indices.map fun index => .number index.toNat)) :=
    .array (List.forall_mem_map.mpr fun index _ =>
      fits_number (Nat.lt_trans index.toNat_lt (by decide)))
  refine .object ?_
  simp only [List.forall_mem_cons]
  exact ⟨fits_string _, hIndices, nofun⟩

/-- What is printed of the clock is an object of plain values. -/
theorem fits_clockReport (c : ClockInfo) : Fits 1 (clockReport c) := by
  refine .object ?_
  simp only [List.forall_mem_cons]
  exact ⟨fits_number c.clock.toNat_lt, fits_number (Nat.lt_trans c.resetCount.toNat_lt (by decide)),
    fits_number (Nat.lt_trans c.restartCount.toNat_lt (by decide)), fits_bool _, nofun⟩

/-- **The fields of an attestation** can be read over, whatever they hold. -/
theorem fits_report (a : Attestation) : Fits 6 a.report := by
  have hQuote : Fits 4 (.object [("pcrSelect", .array (a.selections.map selectionReport)),
      ("pcrDigest", .string (Hex.encode a.pcrDigest))]) := by
    refine .object ?_
    simp only [List.forall_mem_cons]
    exact ⟨.array (List.forall_mem_map.mpr fun s _ => fits_selectionReport s), fits_string _, nofun⟩
  refine .object ?_
  simp only [List.forall_mem_cons]
  exact ⟨fits_string _, fits_string _, fits_string _, fits_string _,
    (fits_clockReport _).mono (by decide), fits_string _,
    .object (List.forall_mem_cons.mpr ⟨hQuote, nofun⟩), nofun⟩

end Attestation

/-! ### Files -/

namespace QuoteFile

/-- What fits is taken for a report when it is read back. -/
theorem isReport_source {v : Json} (h : v.Fits maxDepth) : isReport v.source = true := by
  rw [isReport, h.isUsable, Bool.true_and]
  exact decide_eq_true h.depth_le

/-- **A printed file** has the texts that it was printed with. -/
theorem ofText?_pretty (file : QuoteFile) (a : Attestation) (tail : String)
    (hTail : tail = "" ∨ tail = "\n") : ofText? ((file.json a).pretty ++ tail) = some file := by
  have hReport : isReport a.report.source = true :=
    isReport_source (a.fits_report.mono (by decide))
  have hMembers : (file.json a).source.members? = some [
      ("nonce", .string (some file.nonce)), ("attest", .string (some file.attest)),
      ("signature", .string (some file.signature)), ("quote", a.report.source)] :=
    Json.members?_memberSources _
  have hSource : ofSource? (file.json a).source = (file.json a).source.members?.bind ofMembers? :=
    rfl
  rw [ofText?, JsonDocument.ofText_pretty _ _ hTail]
  dsimp only
  rw [if_pos rfl, hSource, hMembers, Option.bind_some]
  simp [ofMembers?, onlyText?, reportFits, membersNamed, JsonSource.text?, hReport]

/-- The texts of a file **stand for** the nonce and the two parts of the quote. -/
theorem decode_ofQuote (nonce : Bytes) (q : Quote) :
    Hex.decode (ofQuote nonce q).nonce = .ok nonce ∧
      Hex.decode (ofQuote nonce q).attest = .ok q.attestation ∧
      Hex.decode (ofQuote nonce q).signature = .ok q.signature :=
  ⟨Hex.decode_encode _, Hex.decode_encode _, Hex.decode_encode _⟩

end QuoteFile

end RemoteAttestation
