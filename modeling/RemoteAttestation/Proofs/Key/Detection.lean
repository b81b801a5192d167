import RemoteAttestation.Key.Load
import RemoteAttestation.Proofs.Key.PublicArea
import RemoteAttestation.Proofs.Results

/-!
# Telling Points and Public Areas Apart

A key file without a marker is an encoded point or a public area, and nothing in it says which.
Both forms cannot be meant at once: a point begins with a tag that is not zero and is short,
while a public area begins with a zero, and so does the length in front of an area that is as
short as a point. So it would be enough to try one form and then the other
(`AttestationKey.pointThenArea`).

Loading has a condition of its own on the first octet before it tries a point. For all tags but
one this changes nothing. The tag 5, for a first coordinate with the smaller root, is missing
from the condition, so a file with such a point is taken for a public area and refused.

## Main results

* `AttestationKey.ofPoint_eq_ok_iff`: the strings that are encoded points.
* `AttestationKey.exists_ofPublicArea_eq_error`: no such string is a public area.
* `AttestationKey.load_detection`: which files are loaded as the forms have it.
* `AttestationKey.load_not_detecting`: a point that is not loaded.
-/

namespace RemoteAttestation

/-! ### Encoded points -/

namespace Sec1

/-- The **shape** of an encoded point: its tag, and how many octets the tag wants behind it. -/
inductive Shape (c : Curve) : Bytes → Prop where
  /-- Both coordinates. -/
  | both {rest : Bytes} (length : rest.length = 2 * c.width) : Shape c (4 :: rest)
  /-- The first coordinate, and which root the second one is. -/
  | first {tag : UInt8} {rest : Bytes} (isTag : tag ∈ [2, 3, 5]) (length : rest.length = c.width) :
      Shape c (tag :: rest)

/-- Whatever is decoded as a point has the shape of one. -/
theorem shape_of_decode? {c : Curve} {b : Bytes} {point : c.Point} (h : decode? c b = some point) :
    Shape c b := by
  cases b with
  | nil => cases h
  | cons tag rest =>
      simp only [decode?] at h
      split at h
      · rename_i hTag
        subst hTag
        split at h
        · exact .both ‹_›
        · cases h
      · split at h
        · rename_i hLength
          refine .first ?_ hLength
          split at h
          · decide
          · decide
          · decide
          · cases h
        · cases h

/-- The tag of an encoded point. -/
theorem Shape.exists_tag {c : Curve} {b : Bytes} (h : Shape c b) :
    ∃ tag ∈ [2, 3, 4, 5], b.head? = some tag := by
  cases h with
  | both length => exact ⟨4, by decide, rfl⟩
  | @first tag rest isTag length =>
      refine ⟨tag, ?_, rfl⟩
      revert isTag
      simp only [List.mem_cons, List.not_mem_nil, or_false]
      tauto

/-- A point is a tag and one coordinate, or a tag and two. -/
theorem Shape.length_eq {c : Curve} {b : Bytes} (h : Shape c b) :
    b.length = c.width + 1 ∨ b.length = 2 * c.width + 1 := by
  cases h with
  | both length => exact .inr (congrArg (· + 1) length)
  | first isTag length => exact .inl (congrArg (· + 1) length)

/-- No point is longer than two coordinates of P-384 and a tag. -/
theorem Shape.length_le {c : Curve} {b : Bytes} (h : Shape c b) : b.length ≤ 97 := by
  have hLength := h.length_eq
  cases c with
  | p256 => simp only [Curve.width] at hLength; omega
  | p384 => simp only [Curve.width] at hLength; omega

end Sec1

namespace AttestationKey

/-- The length of a point tells its curve. -/
theorem curveOfLength?_eq_some {c : Curve} {length : Nat}
    (h : length = c.width + 1 ∨ length = 2 * c.width + 1) : curveOfLength? length = some c := by
  cases c with
  | p256 => rcases h with rfl | rfl <;> rfl
  | p384 => rcases h with rfl | rfl <;> rfl

/-- **The strings that are encoded points**, on one of the two curves. -/
theorem ofPoint_eq_ok_iff {b : Bytes} {key : AttestationKey} :
    ofPoint b = .ok key ↔ ∃ c point, Sec1.decode? c b = some point ∧ key = elliptic c point := by
  constructor
  · intro h
    rw [ofPoint] at h
    split at h
    · cases h
    · rename_i c _
      split at h
      · rename_i point hDecode
        cases h
        exact ⟨c, point, hDecode, rfl⟩
      · cases h
  · rintro ⟨c, point, hDecode, rfl⟩
    have hCurve := curveOfLength?_eq_some (Sec1.shape_of_decode? hDecode).length_eq
    rw [ofPoint, hCurve]
    simp only [hDecode]

/-! ### Public areas -/

/-- A short string that does not begin with a zero has **no length in front of it**. -/
theorem dropLength_eq_self {b : Bytes} {tag : UInt8} (hHead : b.head? = some tag) (hTag : tag ≠ 0)
    (hLength : b.length ≤ 257) : PublicArea.dropLength b = b := by
  match b with
  | [] => rfl
  | [_] => rfl
  | high :: low :: rest =>
      rw [PublicArea.dropLength, if_neg]
      obtain rfl : high = tag := Option.some.inj hHead
      have hPos : 0 < high.toNat := by
        refine Nat.pos_of_ne_zero fun hZero => hTag ?_
        exact UInt8.toNat_inj.mp hZero
      simp only [Bytes.value, List.foldl_cons, List.foldl_nil, List.length_cons] at hLength ⊢
      omega

/-- A key in an area is found in an area that can be read. -/
theorem exists_parse_of_decodeKey {b : Bytes} {key : AttestationKey}
    (h : PublicArea.decodeKey b = .ok key) : ∃ area, PublicArea.read.parse b = .ok area := by
  obtain ⟨area, hArea, -⟩ := bind_eq_ok_iff.mp h
  exact ⟨area, hArea⟩

/-- **No string is both** an encoded point and a public area. -/
theorem exists_ofPublicArea_eq_error {b : Bytes} {key : AttestationKey} (h : ofPoint b = .ok key) :
    ∃ fault, ofPublicArea b = .error fault := by
  obtain ⟨c, point, hDecode, -⟩ := ofPoint_eq_ok_iff.mp h
  have hShape := Sec1.shape_of_decode? hDecode
  obtain ⟨tag, hTag, hHead⟩ := hShape.exists_tag
  have hZero : tag ≠ 0 := by
    rintro rfl
    exact absurd hTag (by decide)
  rw [ofPublicArea, dropLength_eq_self hHead hZero (hShape.length_le.trans (by decide))]
  cases hKey : PublicArea.decodeKey b with
  | error fault => exact ⟨fault, rfl⟩
  | ok other =>
      -- With nothing in front of it, an area begins with its type and so with a zero.
      obtain ⟨area, hArea⟩ := exists_parse_of_decodeKey hKey
      have hHead' := PublicArea.head?_eq_zero_of_parse hArea
      exact absurd (Option.some.inj (hHead.symm.trans hHead')) hZero

/-! ### Loading -/

/-- A file **without a marker**: if it is text at all, no block begins in it. -/
def Unmarked (b : Bytes) : Prop :=
  ∀ text, b.toText? = some text →
    begins certificateLabel text = false ∧ begins keyLabel text = false

/-- The key of a file without a marker as the two **forms** have it: that of a point if the
file is one, and otherwise what it is as a public area. -/
def pointThenArea (b : Bytes) : Except KeyFault AttestationKey :=
  match ofPoint b with
  | .ok key => .ok key
  | .error _ => ofPublicArea b

/-- A point in **compact** form: its first coordinate behind the tag 5. -/
def CompactPoint (b : Bytes) : Prop :=
  b.head? = some 5 ∧ ∃ key, ofPoint b = .ok key

/-- A file that is not text has no marker. -/
theorem unmarked_of_toText? {b : Bytes} (h : b.toText? = none) : Unmarked b := by
  intro text hText
  rw [h] at hText
  cases hText

/-- A file without a marker is loaded as octets. -/
theorem load_eq_ofBinary {b : Bytes} (h : Unmarked b) : load b = ofBinary b := by
  rw [load]
  cases hText : b.toText? with
  | none => rfl
  | some text =>
      obtain ⟨hCertificate, hKey⟩ := h text hText
      simp only [hCertificate, hKey, Bool.false_eq_true, if_false]

/-- A point with the tag 5 is taken for a public area. -/
theorem ofBinary_of_compact {b : Bytes} (h : CompactPoint b) : ofBinary b = ofPublicArea b := by
  rw [ofBinary, h.1]
  rfl

/-- The condition on the first octet **changes nothing** where the file is no compact point. -/
theorem ofBinary_of_not_compact {b : Bytes} (h : ¬ CompactPoint b) :
    ofBinary b = pointThenArea b := by
  rw [ofBinary, pointThenArea]
  cases hPoint : ofPoint b with
  | error fault => simp only [ite_self]
  | ok key =>
      obtain ⟨c, point, hDecode, -⟩ := ofPoint_eq_ok_iff.mp hPoint
      obtain ⟨tag, hTag, hHead⟩ := (Sec1.shape_of_decode? hDecode).exists_tag
      have hFive : tag ≠ 5 := by
        rintro rfl
        exact h ⟨hHead, key, hPoint⟩
      have hRange : (2 ≤ tag && tag ≤ 4) = true := by
        simp only [List.mem_cons, List.not_mem_nil, or_false] at hTag
        rcases hTag with rfl | rfl | rfl | rfl
        · decide
        · decide
        · decide
        · exact absurd rfl hFive
      rw [hHead, Option.any_some, if_pos hRange]

/-- A compact point is **not loaded** as the point it is. -/
theorem load_ne_of_compact {b : Bytes} (h : Unmarked b) (hCompact : CompactPoint b) :
    load b ≠ pointThenArea b := by
  obtain ⟨key, hPoint⟩ := hCompact.2
  obtain ⟨fault, hArea⟩ := exists_ofPublicArea_eq_error hPoint
  rw [load_eq_ofBinary h, ofBinary_of_compact hCompact, pointThenArea, hPoint, hArea]
  exact nofun

/-- **Which files are loaded as the forms have it.** No string is both a point and a public
area. A file without a marker is loaded as a point if it is one, and otherwise as a public
area, unless it is a compact point: this is loaded as the public area that it is not, so it is
refused. -/
theorem load_detection (b : Bytes) :
    (∀ key, ofPoint b = .ok key → ∃ fault, ofPublicArea b = .error fault) ∧
    (Unmarked b → (load b = pointThenArea b ↔ ¬ CompactPoint b) ∧
      (CompactPoint b → ∃ fault, ofPublicArea b = .error fault ∧ load b = .error fault)) := by
  refine ⟨fun key => exists_ofPublicArea_eq_error, fun hUnmarked => ⟨⟨?_, ?_⟩, ?_⟩⟩
  · exact fun hLoad hCompact => load_ne_of_compact hUnmarked hCompact hLoad
  · exact fun hCompact => (load_eq_ofBinary hUnmarked).trans (ofBinary_of_not_compact hCompact)
  · intro hCompact
    obtain ⟨key, hPoint⟩ := hCompact.2
    obtain ⟨fault, hArea⟩ := exists_ofPublicArea_eq_error hPoint
    refine ⟨fault, hArea, ?_⟩
    rw [load_eq_ofBinary hUnmarked, ofBinary_of_compact hCompact, hArea]

end AttestationKey

/-! ### The base point -/

namespace BasePoint

/-- The base point of P-256 with its first coordinate only, behind a tag. -/
def file (tag : UInt8) : Bytes :=
  tag :: Bytes.ofNat 32 (Curve.base .p256).1

/-- There is no marker in a point with the tag 3. -/
theorem unmarked : AttestationKey.Unmarked (file 3) :=
  AttestationKey.unmarked_of_toText? (by decide +kernel)

theorem unmarked_compact : AttestationKey.Unmarked (file 5) :=
  AttestationKey.unmarked_of_toText? (by decide +kernel)

/-- The point with the tag 3 is that of a key. -/
theorem isPoint : ∃ key, AttestationKey.ofPoint (file 3) = .ok key :=
  isOk_iff_exists.mp (by decide +kernel)

/-- The point with the tag 5 is on the curve as well. -/
theorem compact : AttestationKey.CompactPoint (file 5) :=
  ⟨rfl, isOk_iff_exists.mp (by decide +kernel)⟩

end BasePoint

/-- The base point is loaded behind the tag 3, and it is refused behind the tag 5. -/
theorem AttestationKey.load_detection_of_base_point :
    (∃ key, ofPoint (BasePoint.file 3) = .ok key ∧ load (BasePoint.file 3) = .ok key) ∧
      (∃ key, ofPoint (BasePoint.file 5) = .ok key) ∧
        ∃ fault, load (BasePoint.file 5) = .error fault := by
  obtain ⟨key, hPoint⟩ := BasePoint.isPoint
  have hLoad := (((load_detection (BasePoint.file 3)).2 BasePoint.unmarked).1.mpr
    fun hCompact => absurd hCompact.1 (by decide))
  obtain ⟨fault, -, hRefused⟩ :=
    ((load_detection (BasePoint.file 5)).2 BasePoint.unmarked_compact).2 BasePoint.compact
  refine ⟨⟨key, hPoint, ?_⟩, BasePoint.compact.2, fault, hRefused⟩
  rw [hLoad, pointThenArea, hPoint]

/-- A point may be **refused** by loading. -/
theorem AttestationKey.load_not_detecting :
    ¬ ∀ b : Bytes, Unmarked b → load b = pointThenArea b :=
  fun h => load_ne_of_compact BasePoint.unmarked_compact BasePoint.compact
    (h _ BasePoint.unmarked_compact)

end RemoteAttestation
