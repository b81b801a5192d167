import RemoteAttestation.Proofs.Key.Detection
import RemoteAttestation.Proofs.Key.FixedWidth

/-!
# The Key Behind a Public Area

Most of a public area is about the use of the key, and much of it may be there or not: a
policy, a cipher, a scheme, a way to derive keys. All of this stands in front of the key, so
each part moves what follows it. The key itself is made of a few numbers
(`PublicArea.numbers`): the modulus and the exponent, or a curve and two coordinates.

The key that an area describes is the one with its numbers (`KeyNumbers.key`), whatever the
other parts are and however many zeros stand in front of an integer. Areas with the same
numbers describe one key, or none of them describes any.

## Main results

* `KeyNumbers.key_eq_ok_iff`: the key with some numbers, and when there is one.
* `PublicArea.key_eq`: what an area describes is decided by its numbers.
* `PublicArea.decodeKey_numbers`: the key of a string that begins with an area.
-/

namespace RemoteAttestation

/-! ### Numbers -/

/-- The **numbers** that make a key. -/
inductive KeyNumbers where
  /-- The modulus and the exponent of an RSA key. -/
  | rsa (modulus exponent : Nat)
  /-- The identifier of a curve and the coordinates of a point. -/
  | ecc (curve : UInt16) (x y : Nat)
  deriving Repr, DecidableEq

/-- The numbers in a public area. An exponent of zero means 65537. -/
def PublicArea.numbers (area : PublicArea) : KeyNumbers :=
  match area.parameters with
  | .rsa _ exponent modulus =>
    .rsa modulus.value (if exponent = 0 then 65537 else exponent.toNat)
  | .ecc curve _ x y => .ecc curve x.value y.value

/-- A key **has** some numbers: they are its own, and the identifier is that of its curve. -/
inductive AttestationKey.HasNumbers : AttestationKey → KeyNumbers → Prop where
  /-- An RSA key. -/
  | rsa (key : RsaKey) : HasNumbers (.rsa key) (.rsa key.modulus key.exponent)
  /-- A point of a curve. -/
  | ecc {c : Curve} {id : UInt16} (curve : PublicArea.curve? id = some c) (point : c.Point) :
      HasNumbers (.elliptic c point) (.ecc id point.x point.y)

namespace KeyNumbers

/-- The **key** of some numbers. Those of an RSA key are checked as such. Coordinates are
written in the width of the curve, if they fit, and then have to be those of a point. -/
def key : KeyNumbers → Except KeyFault AttestationKey
  | rsa modulus exponent => ((RsaKey.make modulus exponent).mapError .rsa).map .rsa
  | ecc curve x y =>
    match PublicArea.curve? curve with
    | none => .error (.unsupportedCurve curve)
    | some c =>
      if 256 ^ c.width ≤ x then .error (.oversized ⟨Arithmetic.octetLength x, c.width⟩)
      else if 256 ^ c.width ≤ y then .error (.oversized ⟨Arithmetic.octetLength y, c.width⟩)
      else AttestationKey.ofPoint (4 :: Bytes.ofNat c.width x ++ Bytes.ofNat c.width y)

end KeyNumbers

/-! ### RSA keys -/

/-- A key is made of just the numbers that it has. -/
theorem RsaKey.make_eq_ok_iff {modulus exponent : Nat} {key : RsaKey} :
    make modulus exponent = .ok key ↔ key.modulus = modulus ∧ key.exponent = exponent := by
  constructor
  · intro h
    rw [make] at h
    split_ifs at h
    cases h
    exact ⟨rfl, rfl⟩
  · rintro ⟨rfl, rfl⟩
    have hBits := key.modulus_bits
    have hOdd := key.modulus_odd
    have hLt := key.exponent_lt
    have hExponentOdd := key.exponent_odd
    have hTwo := key.two_le_exponent
    have hExponentBits := key.exponent_bits
    rw [make, dif_neg (by omega), dif_neg (by omega), dif_neg (by omega), dif_neg (by omega),
      dif_neg (by omega)]

/-! ### Points -/

/-- Both coordinates of a point in the width of its curve are **that point**. -/
theorem AttestationKey.ofPoint_coordinates {c : Curve} {x y : Nat} (hx : x < 256 ^ c.width)
    (hy : y < 256 ^ c.width) :
    ofPoint (4 :: Bytes.ofNat c.width x ++ Bytes.ofNat c.width y) =
      if h : c.Contains x y then .ok (.elliptic c ⟨x, y, h⟩) else .error (.notAPoint c) := by
  have hRest : (Bytes.ofNat c.width x ++ Bytes.ofNat c.width y).length = 2 * c.width := by
    rw [List.length_append, Bytes.length_ofNat, Bytes.length_ofNat, Nat.two_mul]
  have hCurve := curveOfLength?_eq_some (c := c) (.inr (congrArg (· + 1) hRest))
  have hTake : (Bytes.ofNat c.width x ++ Bytes.ofNat c.width y).take c.width =
      Bytes.ofNat c.width x := List.take_left' (Bytes.length_ofNat _ _)
  have hDrop : (Bytes.ofNat c.width x ++ Bytes.ofNat c.width y).drop c.width =
      Bytes.ofNat c.width y := List.drop_left' (Bytes.length_ofNat _ _)
  rw [ofPoint, List.cons_append, List.length_cons, hCurve]
  simp only [Sec1.decode?, if_true, if_pos hRest, hTake, hDrop, Bytes.value_ofNat_of_lt hx,
    Bytes.value_ofNat_of_lt hy, Sec1.point?]
  by_cases hContains : c.Contains x y
  · simp only [dif_pos hContains]
  · simp only [dif_neg hContains]

/-- A coordinate that is reduced fits in the width of its curve. -/
theorem Curve.lt_of_lt_prime {c : Curve} {n : Nat} (h : n < c.prime) : n < 256 ^ c.width := by
  refine Nat.lt_trans h ?_
  cases c <;> decide

/-! ### The key of some numbers -/

namespace KeyNumbers

/-- **The key with some numbers** is what they make, and they make nothing else. -/
theorem key_eq_ok_iff {numbers : KeyNumbers} {key : AttestationKey} :
    numbers.key = .ok key ↔ key.HasNumbers numbers := by
  cases numbers with
  | rsa modulus exponent =>
      rw [KeyNumbers.key]
      constructor
      · intro h
        obtain ⟨rsaKey, hMake, rfl⟩ := map_eq_ok_iff.mp h
        obtain ⟨rfl, rfl⟩ := RsaKey.make_eq_ok_iff.mp (mapError_eq_ok_iff.mp hMake)
        exact .rsa rsaKey
      · rintro ⟨rsaKey⟩
        rw [RsaKey.make_eq_ok_iff.mpr ⟨rfl, rfl⟩]
        rfl
  | ecc curve x y =>
      rw [KeyNumbers.key]
      constructor
      · intro h
        split at h
        · cases h
        rename_i c hCurve
        split at h
        · cases h
        rename_i hx
        split at h
        · cases h
        rename_i hy
        rw [AttestationKey.ofPoint_coordinates (Nat.not_le.mp hx) (Nat.not_le.mp hy)] at h
        split at h
        · rename_i hContains
          cases h
          exact .ecc hCurve ⟨x, y, hContains⟩
        · cases h
      · intro h
        cases h with
        | @ecc c _ hCurve point =>
          have hx := Curve.lt_of_lt_prime point.onCurve.1
          have hy := Curve.lt_of_lt_prime point.onCurve.2.1
          simp only [hCurve, if_neg (Nat.not_le.mpr hx), if_neg (Nat.not_le.mpr hy)]
          rw [AttestationKey.ofPoint_coordinates hx hy, dif_pos point.onCurve]

end KeyNumbers

/-! ### Public areas -/

namespace PublicArea

/-- The zeros in front of a coordinate make no difference. -/
theorem eccKey_eq (curve : UInt16) (x y : Bytes) :
    eccKey curve x y = (KeyNumbers.ecc curve x.value y.value).key := by
  rw [eccKey, KeyNumbers.key]
  cases curve? curve with
  | none => rfl
  | some c => exact Bytes.fit_both c.width x y KeyFault.oversized _

/-- **What an area describes** is decided by its numbers. -/
theorem key_eq (area : PublicArea) : area.key = area.numbers.key := by
  rw [key, numbers]
  cases area.parameters with
  | rsa keyBits exponent modulus => rfl
  | ecc curve derivation x y => exact eccKey_eq curve x y

/-- A string that begins with an area holds the key that the area describes. -/
theorem decodeKey_eq_key {area : PublicArea} (h : area.Encodable) (rest : Bytes) :
    decodeKey (area.write ++ rest) = area.key := by
  rw [decodeKey, parse_read_eq_ok_iff.mpr ⟨rest, h, rfl⟩]
  rfl

/-- **The key of a string that begins with an area** is the key of the area's numbers. It is
loaded just when there is a key with these numbers, and it is that key. The key of a string
that begins with any other area of the same numbers is the same, and so is the fault if there
is none. -/
theorem decodeKey_numbers {area : PublicArea} (h : area.Encodable) (rest : Bytes) :
    decodeKey (area.write ++ rest) = area.numbers.key ∧
    (∀ key, decodeKey (area.write ++ rest) = .ok key ↔ key.HasNumbers area.numbers) ∧
    ∀ other : PublicArea, other.Encodable → other.numbers = area.numbers → ∀ rest',
      decodeKey (other.write ++ rest') = decodeKey (area.write ++ rest) := by
  have hKey : ∀ other : PublicArea, other.Encodable → ∀ rest',
      decodeKey (other.write ++ rest') = other.numbers.key := fun other hOther rest' =>
    (decodeKey_eq_key hOther rest').trans other.key_eq
  refine ⟨hKey area h rest, fun key => ?_, fun other hOther hNumbers rest' => ?_⟩
  · rw [hKey area h rest, KeyNumbers.key_eq_ok_iff]
  · rw [hKey other hOther rest', hKey area h rest, hNumbers]

/-! ### Two areas of one key -/

namespace TwoAreas

/-- The area of the base point of P-256 without anything that may be left out. -/
def bare : PublicArea where
  nameAlgorithm := 0x000B
  attributes := 0
  policy := []
  cipher := none
  scheme := none
  parameters := .ecc 0x0003 none (Bytes.ofNat 32 (Curve.base .p256).1)
    (Bytes.ofNat 32 (Curve.base .p256).2)

/-- The area of the same point with a policy, a cipher, a scheme with a count, a way to derive
keys, and a zero in front of a coordinate. -/
def bound : PublicArea where
  nameAlgorithm := 0x000C
  attributes := 0x00050072
  policy := [0xbe, 0xef]
  cipher := some ⟨0x0006, 128, 0x0043⟩
  scheme := some ⟨anonymousScheme, 0x000B, some 1⟩
  parameters := .ecc 0x0003 (some ⟨0x0020, 0x000B, none⟩)
    (0 :: Bytes.ofNat 32 (Curve.base .p256).1) (Bytes.ofNat 32 (Curve.base .p256).2)

/-- The area without anything that may be left out can be written. -/
theorem encodable_bare : bare.Encodable :=
  ⟨by decide, nofun, nofun, nofun, by decide +kernel, by decide +kernel⟩

/-- The area with all that there may be can be written. -/
theorem encodable_bound : bound.Encodable where
  policy := by decide
  cipher := by rintro _ ⟨⟩; decide
  scheme := by rintro _ ⟨⟩; decide
  parameters := ⟨by rintro _ ⟨⟩; decide, by decide +kernel, by decide +kernel⟩

/-- The base point. -/
def point : Curve.Point .p256 :=
  ⟨(Curve.base .p256).1, (Curve.base .p256).2, by decide +kernel⟩

/-- The numbers of the area are the curve and the coordinates. -/
theorem numbers_bare : bare.numbers = .ecc 0x0003 point.x point.y := by
  decide +kernel

/-- What was added makes no difference to the numbers. -/
theorem numbers_bound : bound.numbers = bare.numbers := by
  decide +kernel

end TwoAreas

open TwoAreas in
/-- The base point is loaded from an area with all that there may be, and from one with nothing
but the point and an octet behind it. -/
theorem decodeKey_numbers_of_two_areas :
    bare.Encodable ∧ bound.Encodable ∧ bound.numbers = bare.numbers ∧
      decodeKey (bare.write ++ [0xff]) = .ok (.elliptic .p256 point) ∧
        decodeKey (bound.write ++ []) = .ok (.elliptic .p256 point) := by
  obtain ⟨-, hLoaded, hSame⟩ := decodeKey_numbers encodable_bare [0xff]
  have hBare : decodeKey (bare.write ++ [0xff]) = .ok (.elliptic .p256 point) :=
    (hLoaded _).mpr (numbers_bare ▸ .ecc rfl point)
  exact ⟨encodable_bare, encodable_bound, numbers_bound, hBare,
    (hSame bound encodable_bound numbers_bound []).trans hBare⟩

end PublicArea

end RemoteAttestation
