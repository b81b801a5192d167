import RemoteAttestation.Proofs.Signature

/-!
# Spellings of Signatures

What follows the two names in a signature depends on the first of them: one string in the
schemes of RSA, two in that of ECDSA. The grammar has a rule for either case
(`Signature.Spelled`), and the rules cannot be confused, since they begin with different
identifiers. There is no choice within a rule: each length is written in two octets and nothing
may follow. So a signature has one spelling, the one that is written for it, and a signature
read off a string has the kind of data that its scheme makes.

## Main results

* `Signature.spelled_iff`: the spelling of a signature is the one that is written.
* `Signature.Spelled.unique`, `Signature.Spelled.injective`: a string spells one signature, and no
  other string does.
* `Signature.decode_spelled`: what is decoded, and that it is written back.
-/

namespace RemoteAttestation.Signature

/-- A string **spells** a signature: the identifiers of a scheme and of a hash, and one string
or two, each behind its length. -/
inductive Spelled : Bytes → Signature → Prop where
  /-- A scheme of RSA makes one string. -/
  | rsa {scheme hash : Algorithm} {octets : Bytes}
      (isRsa : scheme = .rsassa ∨ scheme = .rsapss) (isHash : hash.isHash = true)
      (length_lt : octets.length < 65536) :
      Spelled (Wire.u16 scheme.id ++ Wire.u16 hash.id ++ Wire.sized octets)
        ⟨scheme, hash, .rsa octets⟩
  /-- ECDSA makes two integers. -/
  | ecdsa {hash : Algorithm} {r s : Bytes} (isHash : hash.isHash = true)
      (length_r_lt : r.length < 65536) (length_s_lt : s.length < 65536) :
      Spelled (Wire.u16 Algorithm.ecdsa.id ++ Wire.u16 hash.id ++ Wire.sized r ++ Wire.sized s)
        ⟨.ecdsa, hash, .ecdsa r s⟩

variable {raw raw' : Bytes} {s s' : Signature}

/-- What is spelled has a form. -/
theorem Spelled.encodable (h : Spelled raw s) : s.Encodable := by
  cases h with
  | @rsa scheme _ _ hRsa hHash hLength =>
      have hNe : scheme ≠ .ecdsa := by rcases hRsa with rfl | rfl <;> decide
      exact ⟨hRsa.imp_right .inl, hHash, hNe, hLength⟩
  | ecdsa hHash hr hs => exact ⟨.inr (.inr rfl), hHash, rfl, hr, hs⟩

/-- The spelling of a signature is **the one that is written**. -/
theorem Spelled.write_eq (h : Spelled raw s) : s.write = raw := by
  cases h with
  | rsa => rfl
  | ecdsa => rw [write, writeData, ← List.append_assoc]

/-- What has a form is spelled by what is written for it. -/
theorem Encodable.spelled (h : s.Encodable) : Spelled s.write s := by
  obtain ⟨scheme, hash, data⟩ := s
  obtain ⟨hSigns, hHash, hFits⟩ := h
  cases data with
  | rsa octets =>
      obtain ⟨hNe, hLength⟩ := hFits
      refine .rsa ?_ hHash hLength
      rcases hSigns with hScheme | hScheme | hScheme
      · exact .inl hScheme
      · exact .inr hScheme
      · exact absurd hScheme hNe
  | ecdsa r t =>
      obtain ⟨rfl, hr, ht⟩ := hFits
      rw [write, writeData, ← List.append_assoc]
      exact .ecdsa hHash hr ht

/-- A signature is spelled as it is written, and in no other way. -/
theorem spelled_iff : Spelled raw s ↔ s.Encodable ∧ raw = s.write := by
  constructor
  · intro h
    exact ⟨h.encodable, h.write_eq.symm⟩
  · rintro ⟨hEncodable, rfl⟩
    exact hEncodable.spelled

/-- The scheme **decides** what kind of data there is. -/
theorem Spelled.kind (h : Spelled raw s) :
    ((s.algorithm = .rsassa ∨ s.algorithm = .rsapss) ∧ ∃ octets, s.data = .rsa octets) ∨
      (s.algorithm = .ecdsa ∧ ∃ r t, s.data = .ecdsa r t) := by
  cases h with
  | rsa hRsa => exact .inl ⟨hRsa, _, rfl⟩
  | ecdsa => exact .inr ⟨rfl, _, _, rfl⟩

/-- A signature has **one** spelling. -/
theorem Spelled.injective (h : Spelled raw s) (h' : Spelled raw' s) : raw' = raw :=
  h'.write_eq.symm.trans h.write_eq

/-- What is decoded is what is **spelled**. -/
theorem decode_eq_ok_iff_spelled : decode raw = .ok s ↔ Spelled raw s :=
  decode_eq_ok_iff.trans spelled_iff.symm

/-- A string spells **one** signature: the rules are told apart by how they begin. -/
theorem Spelled.unique (h : Spelled raw s) (h' : Spelled raw s') : s = s' := by
  have hDecode := decode_eq_ok_iff_spelled.mpr h
  rw [decode_eq_ok_iff_spelled.mpr h'] at hDecode
  exact (Except.ok.inj hDecode).symm

/-- **The strings that are decoded** are the spellings, and each is decoded to what it spells:
data of the kind that the scheme makes. The signature is written back as the string it was read
from, and no other string is decoded to it. -/
theorem decode_spelled (raw : Bytes) (s : Signature) :
    (decode raw = .ok s ↔ Spelled raw s) ∧
      (decode raw = .ok s →
        (((s.algorithm = .rsassa ∨ s.algorithm = .rsapss) ∧ ∃ octets, s.data = .rsa octets) ∨
          (s.algorithm = .ecdsa ∧ ∃ r t, s.data = .ecdsa r t)) ∧
        s.write = raw ∧ ∀ raw', decode raw' = .ok s → raw' = raw) := by
  refine ⟨decode_eq_ok_iff_spelled, fun h => ?_⟩
  have hSpelled := decode_eq_ok_iff_spelled.mp h
  exact ⟨hSpelled.kind, hSpelled.write_eq, fun raw' h' =>
    hSpelled.injective (decode_eq_ok_iff_spelled.mp h')⟩

namespace TwoKinds

/-- A signature of RSA with an empty string. -/
def short : Signature :=
  ⟨.rsapss, .sha256, .rsa []⟩

/-- A signature of ECDSA, one of whose integers has a zero in front. -/
def padded : Signature :=
  ⟨.ecdsa, .sha1, .ecdsa [0, 1] [2]⟩

/-- The octets spell a string with nothing in it. -/
theorem spelled_short : Spelled [0x00, 0x16, 0x00, 0x0b, 0, 0] short :=
  spelled_iff.mpr ⟨⟨.inr (.inl rfl), rfl, by decide, by decide⟩, by decide +kernel⟩

theorem spelled_padded : Spelled [0x00, 0x18, 0x00, 0x04, 0, 2, 0, 1, 0, 1, 2] padded :=
  spelled_iff.mpr ⟨⟨.inr (.inr rfl), rfl, rfl, by decide, by decide⟩, by decide +kernel⟩

end TwoKinds

open TwoKinds in
/-- The shortest signature there is, and one with two integers that keep their zeros. -/
theorem decode_spelled_of_two_kinds :
    (decode [0x00, 0x16, 0x00, 0x0b, 0, 0] = .ok short ∧
        short.write = [0x00, 0x16, 0x00, 0x0b, 0, 0]) ∧
      decode [0x00, 0x18, 0x00, 0x04, 0, 2, 0, 1, 0, 1, 2] = .ok padded ∧
        padded.write = [0x00, 0x18, 0x00, 0x04, 0, 2, 0, 1, 0, 1, 2] := by
  have hShort := (decode_spelled _ _).1.mpr spelled_short
  have hPadded := (decode_spelled _ _).1.mpr spelled_padded
  exact ⟨⟨hShort, ((decode_spelled _ _).2 hShort).2.1⟩, hPadded,
    ((decode_spelled _ _).2 hPadded).2.1⟩

end RemoteAttestation.Signature
