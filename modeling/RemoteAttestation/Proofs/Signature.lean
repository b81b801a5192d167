import RemoteAttestation.Pcr.Values
import RemoteAttestation.Proofs.Algorithm
import RemoteAttestation.Proofs.Wire.Grammar
import RemoteAttestation.Signature

/-!
# The Grammar of Signatures

A signature has one form, which is the one that is written. Not every value of the type has a
form: its scheme has to be one that signs, and its scheme decides whether it holds a string or
two integers (`Signature.Encodable`).

## Main results

* `Signature.decode_eq_ok_iff`: the strings that are decoded, and the signatures they are.
-/

namespace RemoteAttestation.Signature

/-- The schemes that sign. -/
def Signs (algorithm : Algorithm) : Prop :=
  algorithm = .rsassa ∨ algorithm = .rsapss ∨ algorithm = .ecdsa

/-- What a scheme makes **fits** the scheme: two integers for ECDSA, a string for any other,
with lengths that two octets can count. -/
def DataFits (algorithm : Algorithm) : SignatureData → Prop
  | .rsa octets => algorithm ≠ .ecdsa ∧ octets.length < 65536
  | .ecdsa r s => algorithm = .ecdsa ∧ r.length < 65536 ∧ s.length < 65536

/-- What has a **form**: a signature in a scheme that signs, of a hash, with data that fit the
scheme. -/
structure Encodable (s : Signature) : Prop where
  /-- The scheme signs. -/
  signs : Signs s.algorithm
  /-- The hash is one. -/
  isHash : s.hashAlgorithm.isHash = true
  /-- The data fit the scheme. -/
  dataFits : DataFits s.algorithm s.data

/-- The form of a **signature** is the one that is written. -/
def Form : Grammar Signature := fun b s => s.Encodable ∧ b = s.write

/-! ### Schemes -/

/-- The scheme of an identifier is the algorithm with that identifier, if it is one that
signs. -/
theorem schemeOfId_eq_ok_iff {id : UInt16} {algorithm : Algorithm} :
    schemeOfId id = .ok algorithm ↔ id = algorithm.id ∧ Signs algorithm := by
  rw [schemeOfId]
  constructor
  · intro h
    split at h
    all_goals cases h
    · rename_i hId
      exact ⟨Algorithm.ofId?_eq_some_iff.mp hId, .inl rfl⟩
    · rename_i hId
      exact ⟨Algorithm.ofId?_eq_some_iff.mp hId, .inr (.inl rfl)⟩
    · rename_i hId
      exact ⟨Algorithm.ofId?_eq_some_iff.mp hId, .inr (.inr rfl)⟩
  · rintro ⟨rfl, rfl | rfl | rfl⟩ <;> rfl

/-! ### Reading -/

/-- The reader of the data of a signature accepts what they are written as. -/
theorem accepts_readData (algorithm : Algorithm) :
    Reader.Accepts (readData algorithm) fun b data =>
      DataFits algorithm data ∧ b = writeData data := by
  rw [readData]
  by_cases hEcdsa : algorithm = .ecdsa
  · simp only [if_pos hEcdsa]
    refine Reader.Accepts.congr (Reader.Accepts.bind (Reader.accepts_sized.orFail _) fun r =>
      Reader.Accepts.bind (Reader.accepts_sized.orFail _) fun s => Reader.accepts_pure _)
      fun b data => ?_
    constructor
    · rintro ⟨r, _, _, rfl, ⟨rfl, hr⟩, s, _, _, rfl, ⟨rfl, hs⟩, rfl, rfl⟩
      exact ⟨⟨hEcdsa, hr, hs⟩, by rw [List.append_nil, writeData]⟩
    · rintro ⟨hFits, rfl⟩
      cases data with
      | rsa octets => exact absurd hEcdsa hFits.1
      | ecdsa r s =>
          obtain ⟨-, hr, hs⟩ := hFits
          exact ⟨r, _, _, rfl, ⟨rfl, hr⟩, s, _, [], (List.append_nil _).symm, ⟨rfl, hs⟩, rfl, rfl⟩
  · simp only [if_neg hEcdsa]
    refine Reader.Accepts.congr (Reader.Accepts.bind (Reader.accepts_sized.orFail _) fun octets =>
      Reader.accepts_pure _) fun b data => ?_
    constructor
    · rintro ⟨octets, _, _, rfl, ⟨rfl, hLength⟩, rfl, rfl⟩
      exact ⟨⟨hEcdsa, hLength⟩, by rw [List.append_nil, writeData]⟩
    · rintro ⟨hFits, rfl⟩
      cases data with
      | rsa octets => exact ⟨octets, _, [], (List.append_nil _).symm, ⟨rfl, hFits.2⟩, rfl, rfl⟩
      | ecdsa r s => exact absurd hFits.1 hEcdsa

/-- The reader accepts the octets of the form, and no others. -/
theorem acceptsAll_read : Reader.AcceptsAll read Form := by
  refine Reader.AcceptsAll.congr (Reader.AcceptsAll.bind (Reader.accepts_u16.orFail _) fun id =>
    Reader.AcceptsAll.bind (Reader.accepts_ofExcept (schemeOfId id)) fun algorithm =>
      Reader.AcceptsAll.bind (Reader.accepts_u16.orFail _)
        (k := fun hashId b s => hashId = s.hashAlgorithm.id ∧ s.hashAlgorithm.isHash = true ∧
          s.algorithm = algorithm ∧ DataFits algorithm s.data ∧ b = writeData s.data)
        fun hashId => ?_) fun b s => ?_
  · cases hHash : (Algorithm.ofId? hashId).filter Algorithm.isHash with
    | none =>
        refine (Reader.acceptsAll_throw _).congr fun b s => ⟨False.elim, ?_⟩
        rintro ⟨hId, hIsHash, -⟩
        rw [Algorithm.filter_isHash_eq_some_iff.mpr ⟨hId, hIsHash⟩] at hHash
        cases hHash
    | some hashAlgorithm =>
        obtain ⟨rfl, hIsHash⟩ := Algorithm.filter_isHash_eq_some_iff.mp hHash
        refine Reader.AcceptsAll.congr (Reader.AcceptsAll.bind (accepts_readData algorithm)
          fun data => Reader.acceptsAll_end SignatureFormFault.trailing _) fun b s => ?_
        constructor
        · rintro ⟨data, _, _, rfl, ⟨hFits, rfl⟩, rfl, rfl⟩
          exact ⟨rfl, hIsHash, rfl, hFits, List.append_nil _⟩
        · rintro ⟨hId, -, rfl, hFits, rfl⟩
          obtain rfl : hashAlgorithm = s.hashAlgorithm := Slot.bank_eq_of_id_eq hId
          exact ⟨s.data, _, [], (List.append_nil _).symm, ⟨hFits, rfl⟩, rfl, rfl⟩
  · constructor
    · rintro ⟨id, _, _, rfl, rfl, algorithm, _, _, rfl, ⟨rfl, hScheme⟩, hashId, _, _, rfl, rfl, rfl,
        hIsHash, rfl, hFits, rfl⟩
      obtain ⟨rfl, hSigns⟩ := schemeOfId_eq_ok_iff.mp hScheme
      refine ⟨⟨hSigns, hIsHash, hFits⟩, ?_⟩
      rw [write, List.append_assoc, List.nil_append]
    · rintro ⟨⟨hSigns, hIsHash, hFits⟩, rfl⟩
      refine ⟨s.algorithm.id, _, _, ?_, rfl, s.algorithm, [], _, (List.nil_append _).symm,
        ⟨rfl, schemeOfId_eq_ok_iff.mpr ⟨rfl, hSigns⟩⟩, s.hashAlgorithm.id, _, _, rfl, rfl, rfl,
        hIsHash, rfl, hFits, rfl⟩
      rw [write, List.append_assoc]

/-- **The strings that are decoded** are those of the grammar, and each is one signature. -/
theorem decode_eq_ok_iff {raw : Bytes} {s : Signature} :
    decode raw = .ok s ↔ s.Encodable ∧ raw = s.write :=
  acceptsAll_read.parse_eq_ok_iff

/-- A signature that can be decoded has two octets for its scheme. -/
theorem two_le_length {raw : Bytes} {s : Signature} (h : decode raw = .ok s) : 2 ≤ raw.length := by
  obtain ⟨-, rfl⟩ := decode_eq_ok_iff.mp h
  simp only [write, List.length_append, Wire.length_u16]
  omega

end RemoteAttestation.Signature
