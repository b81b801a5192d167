import RemoteAttestation.Proofs.Appraisal.Policy
import RemoteAttestation.Proofs.Attestation
import RemoteAttestation.Proofs.CommandLine.PcrFile
import RemoteAttestation.Proofs.Device.Quoting
import RemoteAttestation.Proofs.Signature

/-!
# Honest Runs

A TPM that does what it is asked returns an attestation of the selected PCRs with the nonce of
the request, signed by its key. Nothing between the TPM and the verdict may spoil such a quote:
the exchange hands on the attestation and the signature as they came, both are decoded to what
they were, the values in a file are those that were written to it, and the verdict is positive.

## Main results

* `Attestation.Honest.policy`: an honest attestation meets the policy.
* `honest_run_accepted`: a run with an honest TPM ends with a positive verdict.
-/

namespace RemoteAttestation

/-- The **state** of the PCRs that a request selects: a value for each of them and for no
other, with the size of its bank's digests. -/
structure QuoteRequest.State (request : QuoteRequest) (v : PcrValues) : Prop where
  /-- Just the selected slots have a value. -/
  isSome_iff : ∀ slot, (v.get? slot).isSome = true ↔
    ∃ s ∈ request.selections, s.bank = slot.bank ∧ slot.index ∈ s.indices
  /-- The values have the right sizes. -/
  sized : v.Sized

/-- An **honest** attestation for a request: a quote that repeats the nonce and the selections,
with the digest of the selected values. The signer, the clock and the firmware may be any. -/
structure Attestation.Honest (a : Attestation) (request : QuoteRequest) (v : PcrValues)
    (hash : HashAlgorithm) : Prop where
  /-- The mark is that of a TPM. -/
  magic_eq : a.magic = generatedValue
  /-- The statement is a quote. -/
  kind_eq : a.kind = quoteKind
  /-- The quote repeats the nonce. -/
  extraData_eq : a.extraData = request.nonce
  /-- The quote repeats the selections. -/
  selections_eq : a.selections = request.selections
  /-- The digest is that of the selected values. -/
  pcrDigest_eq : ∃ values, v.concat request.selections = .ok values ∧
    a.pcrDigest = hash.digest values
  /-- The length of the attestation fits in two octets. -/
  length_le : a.write.length ≤ 65535

namespace Attestation

/-- An attestation whose length fits in two octets has fields whose lengths do. -/
theorem Honest.encodable {a : Attestation} {request : QuoteRequest} {v : PcrValues}
    {hash : HashAlgorithm} (h : a.Honest request v hash) : a.Encodable := by
  have hLength := h.length_le
  simp only [write, List.length_append, Wire.length_sized] at hLength
  exact ⟨h.magic_eq, h.kind_eq, by omega, by omega, by omega⟩

/-- An honest attestation of selections that some bank can have is **read back**. -/
theorem Honest.decode_write {a : Attestation} {request : QuoteRequest} {v : PcrValues}
    {hash : HashAlgorithm} (h : a.Honest request v hash)
    (hBanks : ∀ s ∈ request.selections, s.InBank) : decode a.write = .ok a := by
  have hCount := Algorithm.length_le_of_nodup request.banks_nodup
  rw [List.length_map] at hCount
  refine Attestation.decode_write h.encodable ?_ ?_
  · rw [h.selections_eq]
    omega
  · rw [h.selections_eq]
    exact hBanks

/-- An honest attestation **meets the policy**, if it is signed. -/
theorem Honest.policy {a : Attestation} {request : QuoteRequest} {v : PcrValues}
    {hash : HashAlgorithm} (h : a.Honest request v hash) (hState : request.State v) {s : Signature}
    (hHash : s.hashAlgorithm.hash? = some hash) {key : AttestationKey} {raw : Bytes}
    (hSigned : key.check s raw = .ok ()) : a.Policy s raw request.nonce v key := by
  have hCovers : ∀ slot, a.Covers slot ↔ (v.get? slot).isSome = true := fun slot => by
    rw [Covers, h.selections_eq, hState.isSome_iff]
  obtain ⟨values, hConcat, hDigest⟩ := h.pcrDigest_eq
  rw [← h.selections_eq, concat_eq_ok_iff] at hConcat
  refine ⟨h.extraData_eq, ?_, hCovers, ⟨hash, .inl ⟨hHash, ?_⟩, ?_⟩, ?_⟩
  · obtain ⟨first, hFirst⟩ := List.exists_mem_of_ne_nil _ request.selections_ne_nil
    have hNe : first.indices ≠ [] := by
      simpa [Selection.isEmpty] using request.selections_inhabited first hFirst
    obtain ⟨index, hIndex⟩ := List.exists_mem_of_ne_nil _ hNe
    exact ⟨⟨first.bank, index⟩, first, h.selections_eq ▸ hFirst, rfl, hIndex⟩
  · rw [hDigest, HashAlgorithm.length_digest]
  · rw [hDigest, hConcat.2]
  · rw [hSigned]
    rfl

end Attestation

/-- **Honest runs are accepted.** A TPM answers the command of a request with an honest
attestation and a signature that the key accepts, with whatever authorisation behind them. Then
the session ends with just these octets, and the verdict on them is positive, with the nonce of
the request and with the values as they are read from a file that they were written to. -/
theorem honest_run_accepted {σ : Type} {transmit : Bytes → StateM σ (Except TransportFault Bytes)}
    {report : DeviceEvent → StateM σ Unit} {request : QuoteRequest} {v : PcrValues}
    {hash : HashAlgorithm} {a : Attestation} {signature : Bytes} {s : Signature}
    {key : AttestationKey} {response authorisation : Bytes} {size : UInt32}
    (hMade : ∀ chosen ∈ request.selections,
      ∃ bank indices, Selection.make bank indices = .ok chosen)
    (hState : request.State v) (hHonest : a.Honest request v hash)
    (hDecode : Signature.decode signature = .ok s) (hHash : s.hashAlgorithm.hash? = some hash)
    (hSigned : key.check s a.write = .ok ())
    (hSize : size.toNat = 2 + a.write.length + signature.length)
    (hResponse : Response.Succeeds response
      (Wire.u32 size ++ Wire.sized a.write ++ signature ++ authorisation))
    (hTransmit : ∀ state, (transmit request.command state).1 = .ok response) (state : σ) :
    (request.session.run transmit report state).1 = .ok ⟨a.write, signature⟩ ∧
      ∃ v' verdict, PcrValues.ofText v.file = .ok v' ∧
        (verify a.write signature request.nonce v' key).result = .ok verdict ∧
          verdict.overall = true := by
  have hCarries : Quote.Carries response ⟨a.write, signature⟩ := by
    refine ⟨_, authorisation, ⟨size, hSize, ?_, Signature.two_le_length hDecode, rfl⟩, hResponse⟩
    exact Nat.lt_succ_of_le hHonest.length_le
  have hBanks : ∀ s ∈ request.selections, s.InBank := fun s hs => by
    obtain ⟨bank, indices, hMake⟩ := hMade s hs
    exact (Selection.make_eq_ok_iff.mp hMake).2.2.1
  refine ⟨?_, v, (verifyDecoded a.write a s request.nonce v key).result, ?_, ?_, ?_⟩
  · rw [QuoteRequest.run_session hTransmit, Quote.ofResponse_eq_ok_iff.mpr hCarries]
    rfl
  · have hFile := PcrValues.ofText_file hState.sized "" (.inl rfl)
    rwa [String.append_empty] at hFile
  · rw [verify, hHonest.decode_write hBanks, hDecode]
  · exact verifyDecoded_overall_iff.mpr (hHonest.policy hState hHash hSigned)

/-! ### A run -/

namespace HonestRun

/-- The slots that are quoted: one of the SHA-1 bank and one of the SHA-256 bank. -/
def selections : List Selection :=
  [.ofIndices .sha1 [0], .ofIndices .sha256 [7]]

/-- The request. -/
def request : QuoteRequest where
  keyHandle := 0x81010001
  nonce := [0xbe, 0xef]
  selections := selections
  scheme := .rsassa .sha1
  nonce_size := by decide
  selections_ne_nil := by decide
  selections_inhabited := by decide +kernel
  banks_nodup := by decide

/-- The values of the two slots. -/
def entries : List (Slot × Bytes) :=
  [(⟨.sha1, 0⟩, List.replicate 20 0), (⟨.sha256, 7⟩, List.replicate 32 0xff)]

/-- The PCRs of the TPM. -/
def values : PcrValues :=
  .insertAll .empty entries

/-- What the TPM attests. -/
def attestation : Attestation where
  magic := Attestation.generatedValue
  kind := Attestation.quoteKind
  qualifiedSigner := [0x00, 0x0b]
  extraData := [0xbe, 0xef]
  clockInfo := ⟨1000, 1, 2, true⟩
  firmwareVersion := 3
  selections := selections
  pcrDigest := [0xef, 0x6d, 0xfb, 0x13, 0x5b, 0x86, 0x55, 0xce, 0x76, 0x3e, 0xc7, 0xc5, 0xab, 0x99,
    0x6d, 0x7f, 0xca, 0x37, 0xc9, 0xa1]

/-- The key, whose modulus is small for a key but has room for a digest. -/
def key : RsaKey where
  modulus :=
    0x3ffe0000000000000000ffcfdecff729fad4f1fcfde5fafffbeb79e1f71f0bd2b626aeebe6ed1c96c311051e0fd7
  exponent := 3
  modulus_bits := by decide +kernel
  modulus_odd := by decide +kernel
  exponent_lt := by decide +kernel
  exponent_odd := by decide
  two_le_exponent := by decide
  exponent_bits := by decide

/-- The signature of the attestation. -/
def signature : Signature where
  algorithm := .rsassa
  hashAlgorithm := .sha1
  data := .rsa (Bytes.ofNat 46 (2 ^ 122 + 1))

/-- The response of the TPM, with an authorisation behind the quote. -/
def response : Bytes :=
  Wire.u16 TpmCommand.authorisedTag ++ Wire.u32 150 ++ Wire.u32 0 ++
    (Wire.u32 131 ++ Wire.sized attestation.write ++ signature.write ++ [0, 0, 1, 0, 0])

/-- The signature is that of the key over the attestation. -/
theorem key_check : (AttestationKey.rsa key).check signature attestation.write = .ok () := by
  have hVerify : Pkcs1.verify key .sha1 (HashAlgorithm.sha1.digest attestation.write)
      (Bytes.ofNat 46 (2 ^ 122 + 1)) = true := by decide +kernel
  simp only [AttestationKey.check, signature, Algorithm.hash?, AttestationKey.checkString, hVerify,
    if_true]

/-- The two values, one by one. -/
theorem mem_entries_iff {slot : Slot} {value : Bytes} :
    (slot, value) ∈ entries ↔
      slot = ⟨.sha1, 0⟩ ∧ value = List.replicate 20 0 ∨
        slot = ⟨.sha256, 7⟩ ∧ value = List.replicate 32 0xff := by
  rw [entries, List.mem_cons, List.mem_singleton, Prod.mk.injEq, Prod.mk.injEq]

/-- The values are those of the entries, since the entries are of different slots. -/
theorem get?_values {slot : Slot} {value : Bytes} :
    values.get? slot = some value ↔ (slot, value) ∈ entries := by
  refine PcrValues.get?_insertAll_eq_some_iff fun slot value value' h h' => ?_
  rcases mem_entries_iff.mp h with ⟨rfl, rfl⟩ | ⟨rfl, rfl⟩ <;>
    rcases mem_entries_iff.mp h' with ⟨hSlot, rfl⟩ | ⟨hSlot, rfl⟩ <;> first | rfl | cases hSlot

/-- The two selections, one by one. -/
theorem mem_selections_iff {s : Selection} :
    s ∈ request.selections ↔ s = .ofIndices .sha1 [0] ∨ s = .ofIndices .sha256 [7] := by
  rw [show request.selections = selections from rfl, selections, List.mem_cons, List.mem_singleton]

/-- The values are a state that answers the request. -/
theorem state : request.State values where
  isSome_iff slot := by
    rw [Option.isSome_iff_exists]
    simp only [get?_values, mem_entries_iff, mem_selections_iff]
    constructor
    · rintro ⟨value, ⟨rfl, rfl⟩ | ⟨rfl, rfl⟩⟩
      · exact ⟨_, .inl rfl, rfl, Selection.mem_ofIndices_iff.mpr List.mem_cons_self⟩
      · exact ⟨_, .inr rfl, rfl, Selection.mem_ofIndices_iff.mpr List.mem_cons_self⟩
    · rintro ⟨s, rfl | rfl, hBank, hIndex⟩
      · rw [Selection.mem_ofIndices_iff, List.mem_singleton] at hIndex
        exact ⟨_, .inl ⟨Slot.eq_of_fields hBank.symm hIndex, rfl⟩⟩
      · rw [Selection.mem_ofIndices_iff, List.mem_singleton] at hIndex
        exact ⟨_, .inr ⟨Slot.eq_of_fields hBank.symm hIndex, rfl⟩⟩
  sized slot value h := by
    rcases mem_entries_iff.mp (get?_values.mp h) with ⟨rfl, rfl⟩ | ⟨rfl, rfl⟩ <;> rfl

/-- The attestation is an honest answer to the request. -/
theorem honest : attestation.Honest request values .sha1 where
  magic_eq := rfl
  kind_eq := rfl
  extraData_eq := rfl
  selections_eq := rfl
  pcrDigest_eq := by
    have hConcat : values.concat attestation.selections = .ok (attestation.preimage values) :=
      Attestation.concat_eq_ok_iff.mpr ⟨fun slot h => (state.isSome_iff slot).mpr h, rfl⟩
    exact ⟨_, hConcat, by decide +kernel⟩
  length_le := by decide +kernel

/-- The response succeeds, with the attestation and the signature in its body. -/
theorem succeeds : Response.Succeeds response
    (Wire.u32 131 ++ Wire.sized attestation.write ++ signature.write ++ [0, 0, 1, 0, 0]) :=
  ⟨TpmCommand.authorisedTag, 150, by decide +kernel, rfl⟩

/-- The signature can be written. -/
theorem encodable : signature.Encodable :=
  ⟨.inl rfl, rfl, by decide, by decide +kernel⟩

/-- The selections of the request are made for an operator. -/
theorem made : ∀ chosen ∈ request.selections,
    ∃ bank indices, Selection.make bank indices = .ok chosen := by
  intro chosen hChosen
  rcases mem_selections_iff.mp hChosen with rfl | rfl
  · exact ⟨.sha1, [0], rfl⟩
  · exact ⟨.sha256, [7], rfl⟩

/-- The verdict on the quote is positive. -/
theorem exists_verdict : ∃ verdict,
    (verify attestation.write signature.write request.nonce values (.rsa key)).result =
      .ok verdict ∧ verdict.overall = true := by
  have hBanks : ∀ s ∈ request.selections, s.InBank := fun s hs => by
    obtain ⟨bank, indices, hMake⟩ := made s hs
    exact (Selection.make_eq_ok_iff.mp hMake).2.2.1
  have hDecode : Signature.decode signature.write = .ok signature :=
    Signature.decode_eq_ok_iff.mpr ⟨encodable, rfl⟩
  refine ⟨(verifyDecoded attestation.write attestation signature request.nonce values
    (.rsa key)).result, ?_, verifyDecoded_overall_iff.mpr (honest.policy state rfl key_check)⟩
  rw [verify, honest.decode_write hBanks, hDecode]

end HonestRun

/-- A TPM that quotes two banks is accepted. -/
theorem honest_run_accepted_of_two_banks :
    ((HonestRun.request.session.run (fun _ => pure (.ok HonestRun.response)) (fun _ => pure ()) :
      StateM Unit (Except QuoteFailure Quote)) ()).1 =
        .ok ⟨HonestRun.attestation.write, HonestRun.signature.write⟩ ∧
      ∃ v' verdict, PcrValues.ofText HonestRun.values.file = .ok v' ∧
        (verify HonestRun.attestation.write HonestRun.signature.write HonestRun.request.nonce v'
          (.rsa HonestRun.key)).result = .ok verdict ∧ verdict.overall = true := by
  refine honest_run_accepted HonestRun.made HonestRun.state HonestRun.honest
    (Signature.decode_eq_ok_iff.mpr ⟨HonestRun.encodable, rfl⟩) rfl HonestRun.key_check ?_
    HonestRun.succeeds (fun _ => rfl) ()
  decide +kernel

end RemoteAttestation
