import RemoteAttestation.Proofs.Key.Numbers

/-!
# Public Areas Behind Their Length

A file holds a public area as it is, or behind its length in two octets, and nothing in it says
which. Loading decides by a coincidence: the first two octets are taken for a length when they
denote the number of octets behind them. In front of an area that is right, whatever the area
is. But an area that stands alone also begins with two octets, those of its type, and when they
happen to denote the number of octets behind them the type is lost.

The type of an RSA key denotes 1, and no area is as short as that. The type of a key on a curve
denotes 35, which an area can have behind its type, so an area of such a key in 37 octets is
mistaken. There is room in it for coordinates of fifteen octets together. All other areas are
read as what they are.

## Main results

* `PublicArea.dropLength_sized`: what stands behind its length is found.
* `PublicArea.dropLength_eq_self_iff`: which areas keep their type.
* `AttestationKey.ofPublicArea_forms`: the key of a file with either form.
-/

namespace RemoteAttestation

namespace PublicArea

/-! ### The first two octets -/

/-- Two octets are dropped when they denote **the number of octets behind them**. -/
theorem dropLength_u16_append (n : UInt16) (rest : Bytes) :
    dropLength (Wire.u16 n ++ rest) =
      if n.toNat = rest.length then rest else Wire.u16 n ++ rest := by
  have hValue : Bytes.value (Wire.u16 n) = n.toNat := by
    rw [Wire.u16, Bytes.value_ofNat_of_lt n.toNat_lt]
  obtain ⟨high, low, hOctets⟩ := List.length_eq_two.mp (Wire.length_u16 n)
  rw [hOctets] at hValue ⊢
  rw [List.cons_append, List.cons_append, List.nil_append, dropLength, hValue]

/-- What stands **behind its length** is found. -/
theorem dropLength_sized {b : Bytes} (h : b.length < 65536) : dropLength (Wire.sized b) = b := by
  have hToNat : (UInt16.ofNat b.length).toNat = b.length := UInt16.toNat_ofNat_of_lt' h
  have hSized : Wire.sized b = Wire.u16 (UInt16.ofNat b.length) ++ b := by
    rw [Wire.sized, Wire.u16, hToNat]
  rw [hSized, dropLength_u16_append, if_pos hToNat]

/-! ### How short an area is -/

/-- A cipher takes at least the two octets of its identifier. -/
theorem two_le_length_writeCipher (cipher : Option Cipher) : 2 ≤ (writeCipher cipher).length := by
  cases cipher with
  | none => simp [writeCipher]
  | some c => simp [writeCipher]

theorem two_le_length_writeScheme (scheme : Option BoundScheme) :
    2 ≤ (writeScheme scheme).length := by
  cases scheme with
  | none => simp [writeScheme]
  | some s => simp [writeScheme]

/-- The parameters of a key take at least eight octets. -/
theorem eight_le_length_writeParameters (parameters : KeyParameters) :
    8 ≤ (writeParameters parameters).length := by
  cases parameters with
  | rsa keyBits exponent modulus =>
      simp only [writeParameters, List.length_append, Wire.length_u16, Wire.length_u32,
        Wire.length_sized]
      omega
  | ecc curve derivation x y =>
      have hDerivation := two_le_length_writeScheme derivation
      simp only [writeParameters, List.length_append, Wire.length_u16, Wire.length_sized]
      omega

/-- An area has at least **twenty-two octets**, two of them its type. -/
theorem twentyTwo_le_length_write (area : PublicArea) : 22 ≤ area.write.length := by
  have hCipher := two_le_length_writeCipher area.cipher
  have hScheme := two_le_length_writeScheme area.scheme
  have hParameters := eight_le_length_writeParameters area.parameters
  simp only [write, List.length_append, Wire.length_u16, Wire.length_u32, Wire.length_sized]
  omega

/-- A string that begins with an area **begins with its type**. -/
theorem exists_fields (area : PublicArea) (rest : Bytes) :
    ∃ fields, area.write ++ rest = Wire.u16 (typeOf area.parameters).id ++ fields ∧
      20 ≤ fields.length := by
  obtain ⟨fields, hFields⟩ : Wire.u16 (typeOf area.parameters).id <+: area.write ++ rest := by
    simp only [write, List.append_assoc, List.prefix_append]
  have hLong := area.twentyTwo_le_length_write
  have hLength := congrArg List.length hFields
  rw [List.length_append, List.length_append, Wire.length_u16] at hLength
  exact ⟨fields, hFields.symm, by omega⟩

/-! ### Areas that stand alone -/

/-- The type of an area is the length of what is behind it **only for a key on a curve**, in a
string of thirty-seven octets. -/
theorem toNat_typeOf_eq_length_iff {parameters : KeyParameters} {fields : Bytes}
    (hFields : 20 ≤ fields.length) :
    (typeOf parameters).id.toNat = fields.length ↔
      typeOf parameters = .ecc ∧ 2 + fields.length = 37 := by
  cases parameters with
  | rsa keyBits exponent modulus =>
      have hType : Algorithm.rsa.id.toNat = 1 := by decide
      simp only [typeOf, hType, reduceCtorEq, false_and, iff_false]
      omega
  | ecc curve derivation x y =>
      have hType : Algorithm.ecc.id.toNat = 35 := by decide
      simp only [typeOf, hType, true_and]
      omega

variable {b : Bytes} {area : PublicArea}

/-- A string that begins with an area loses its first two octets, or it stays as it is. -/
theorem dropLength_of_parse (h : read.parse b = .ok area) :
    dropLength b =
      if typeOf area.parameters = .ecc ∧ b.length = 37 then b.drop 2 else b := by
  obtain ⟨rest, -, rfl⟩ := parse_read_eq_ok_iff.mp h
  obtain ⟨fields, hFields, hLong⟩ := area.exists_fields rest
  have hLength : (area.write ++ rest).length = 2 + fields.length := by
    rw [hFields, List.length_append, Wire.length_u16]
  have hDrop : (area.write ++ rest).drop 2 = fields := by
    rw [hFields, List.drop_left' (Wire.length_u16 _)]
  rw [hLength, hDrop, hFields, dropLength_u16_append]
  simp only [toNat_typeOf_eq_length_iff hLong]

/-- **Which areas keep their type**: all but those of a key on a curve in thirty-seven
octets. -/
theorem dropLength_eq_self_iff (h : read.parse b = .ok area) :
    dropLength b = b ↔ ¬ (typeOf area.parameters = .ecc ∧ b.length = 37) := by
  rw [dropLength_of_parse h]
  by_cases hMistaken : typeOf area.parameters = .ecc ∧ b.length = 37
  · rw [if_pos hMistaken]
    have hShorter : (b.drop 2).length ≠ b.length := by
      rw [List.length_drop]
      omega
    exact iff_of_false (fun hEq => hShorter (congrArg List.length hEq)) (not_not.mpr hMistaken)
  · rw [if_neg hMistaken]
    exact iff_of_true rfl hMistaken

end PublicArea

/-! ### Keys -/

namespace AttestationKey

open PublicArea in
/-- **The key of a file with either form.** An area behind its length is read as the area, and
what is wrong with it is wrong with the file. A file that begins with an area is read as that
area, if it is not one of a key on a curve in thirty-seven octets; such a file is read as what
stands behind its first two octets. So an area that describes a key describes it as a file, in
any other number of octets. -/
theorem ofPublicArea_forms (b : Bytes) :
    (b.length < 65536 → ofPublicArea (Wire.sized b) = decodeKey b) ∧
    (∀ area, read.parse b = .ok area →
      (dropLength b = b ↔ ¬ (typeOf area.parameters = .ecc ∧ b.length = 37)) ∧
      (typeOf area.parameters = .ecc → b.length = 37 →
        ofPublicArea b = decodeKey (b.drop 2))) ∧
    ∀ key, decodeKey b = .ok key → b.length ≠ 37 → ofPublicArea b = decodeKey b := by
  refine ⟨fun hLength => ?_, fun area hArea => ⟨dropLength_eq_self_iff hArea, ?_⟩, ?_⟩
  · rw [ofPublicArea, dropLength_sized hLength]
  · intro hType hLength
    rw [ofPublicArea, dropLength_of_parse hArea, if_pos ⟨hType, hLength⟩]
  · intro key hKey hLength
    obtain ⟨area, hArea⟩ := exists_parse_of_decodeKey hKey
    have hSelf : dropLength b = b :=
      (dropLength_eq_self_iff hArea).mpr fun hMistaken => hLength hMistaken.2
    rw [ofPublicArea, hSelf]

end AttestationKey

/-! ### An area in both forms -/

namespace PublicArea.TwoAreas

/-- The key of the area with nothing that may be left out. -/
theorem decodeKey_bare : decodeKey bare.write = .ok (.elliptic .p256 point) := by
  have hKey := decodeKey_eq_key encodable_bare []
  rw [List.append_nil, key_eq, numbers_bare] at hKey
  exact hKey.trans (KeyNumbers.key_eq_ok_iff.mpr (.ecc rfl point))

/-- An area with the type of a key on a curve in thirty-seven octets. -/
def short : PublicArea :=
  { bare with parameters := .ecc 0x0003 none (List.replicate 15 1) [] }

/-- The octets of the short area are read as that area. -/
theorem parse_short : read.parse short.write = .ok short := by
  refine parse_read_eq_ok_iff.mpr ⟨[], ⟨?_, nofun, nofun, nofun, ?_, ?_⟩, ?_⟩
  · decide
  · decide
  · decide
  · rw [List.append_nil]

end PublicArea.TwoAreas

open PublicArea PublicArea.TwoAreas in
/-- The base point is loaded from its area alone and from its area behind its length. The area
in thirty-seven octets is not what is left of it as a file. -/
theorem AttestationKey.ofPublicArea_forms_of_base_point :
    (bare.write.length = 86 ∧ ofPublicArea bare.write = .ok (.elliptic .p256 point)) ∧
    ofPublicArea (Wire.sized bare.write) = .ok (.elliptic .p256 point) ∧
    (read.parse short.write = .ok short ∧ short.write.length = 37 ∧
      dropLength short.write ≠ short.write) := by
  have hLength : bare.write.length = 86 := by decide
  have hShortLength : short.write.length = 37 := by decide
  obtain ⟨hSized, -, hAlone⟩ := ofPublicArea_forms bare.write
  obtain ⟨-, hShort, -⟩ := ofPublicArea_forms short.write
  refine ⟨⟨hLength, ?_⟩, ?_, parse_short, hShortLength, fun hSelf => ?_⟩
  · exact (hAlone _ decodeKey_bare (by omega)).trans decodeKey_bare
  · exact (hSized (by omega)).trans decodeKey_bare
  · exact (hShort short parse_short).1.mp hSelf ⟨rfl, hShortLength⟩

end RemoteAttestation
