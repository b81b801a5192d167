import Mathlib.Data.List.DropRight
import RemoteAttestation.Proofs.Pcr.Spelling

/-!
# Bitmaps and Sets of Indices

A selection and its bitmap are two forms of one set of indices. The bitmap is made by setting
one bit for each index in a row of zeros that is wide enough for the highest index, and never
narrower than a bank needs (`Selection.setBit?`); the indices are found again by going through
the bits in their order.

In one direction nothing is lost at all. In the other direction a bitmap may be longer or
shorter than the one that is made for its indices, so what comes back is the bitmap without the
zeros that it ends with, and with as many zeros behind it as a bank needs. This holds of
bitmaps that have no more bits than there are indices. In a longer one a bit counts modulo 256,
so two bits may stand for one index.

## Main results

* `Selection.foldlM_setBit?`: each bit is set in a bitmap that has it.
* `Selection.indices_ofBitmap`: the numbers of the set bits are the indices, in their order.
* `Selection.toBitmap_ofBitmap`: the bitmap that comes back.
* `Selection.bitmap_inverse`: bitmaps and sets of indices are inverse.
-/

namespace RemoteAttestation

/-! ### Zeros at the end -/

namespace Bytes

/-- Zeros behind a string add **no bits**. -/
theorem hasBit_append_replicate_iff {x : Bytes} {k b n : Nat} :
    HasBit (x ++ List.replicate k 0) b n ↔ HasBit x b n := by
  constructor
  · rintro ⟨octet, hOctet, hBit⟩
    rcases Nat.lt_or_ge b x.length with hLt | hGe
    · rw [List.getElem?_append_left hLt] at hOctet
      exact ⟨octet, hOctet, hBit⟩
    · rw [List.getElem?_append_right hGe] at hOctet
      obtain rfl := List.eq_of_mem_replicate (List.mem_of_getElem? hOctet)
      rw [UInt8.toNat_zero, Nat.zero_testBit] at hBit
      cases hBit
  · rintro ⟨octet, hOctet, hBit⟩
    have hLt := (List.getElem?_eq_some_iff.mp hOctet).1
    exact ⟨octet, (List.getElem?_append_left hLt).trans hOctet, hBit⟩

/-- A string is what is left without the zeros that it ends with, and these zeros. -/
theorem exists_eq_rdropWhile_append (x : Bytes) :
    ∃ k, x = x.rdropWhile (· == 0) ++ List.replicate k 0 := by
  have hZeros : x.rtakeWhile (· == 0) = List.replicate (x.rtakeWhile (· == 0)).length 0 :=
    List.eq_replicate_of_mem fun octet hOctet => by simpa using List.mem_rtakeWhile_imp hOctet
  exact ⟨_, by rw [← hZeros, List.rdropWhile_append_rtakeWhile]⟩

/-- Without the zeros that it ends with, a string has **the same bits**. -/
theorem hasBit_rdropWhile_iff {x : Bytes} {b n : Nat} :
    HasBit (x.rdropWhile (· == 0)) b n ↔ HasBit x b n := by
  obtain ⟨k, hk⟩ := exists_eq_rdropWhile_append x
  rw [← hasBit_append_replicate_iff (k := k), ← hk]

/-- Zeros at the end add no bit. -/
theorem hasBit_rightpad_iff {x : Bytes} {size b n : Nat} :
    HasBit (x.rightpad size 0) b n ↔ HasBit x b n :=
  hasBit_append_replicate_iff

/-- An octet that is not zero has a bit. -/
theorem exists_testBit_of_ne_zero {octet : UInt8} (h : octet ≠ 0) :
    ∃ n, octet.toNat.testBit n = true :=
  Nat.exists_testBit_of_ne_zero fun hZero => h (UInt8.toNat_inj.mp hZero)

end Bytes

namespace Selection

/-! ### Making a bitmap -/

/-- The **highest** index of a selection, or zero if it has none. -/
def highest (s : Selection) : Nat :=
  (s.indices.map UInt8.toNat).max?.getD 0

/-- A bitmap with the bit of one more index, if it has an octet for this bit. -/
def setBit? (bitmap : Bytes) (index : UInt8) : Option Bytes :=
  bitmap[index.toNat / 8]?.map fun octet =>
    bitmap.set (index.toNat / 8) (octet ||| 1 <<< (index % 8))

/-- No index is above the highest. -/
theorem toNat_le_highest {s : Selection} {index : UInt8} (h : index ∈ s.indices) :
    index.toNat ≤ s.highest :=
  List.le_max?_getD_of_mem (List.mem_map_of_mem h)

/-- The last index **is the highest** one. -/
theorem toNat_getLast_eq_highest {s : Selection} (h : s.indices ≠ []) :
    (s.indices.getLast h).toNat = s.highest := by
  have hMax : (s.indices.map UInt8.toNat).max? = some (s.indices.getLast h).toNat := by
    rw [List.max?_eq_some_iff]
    refine ⟨List.mem_map_of_mem (List.getLast_mem h), fun n hn => ?_⟩
    obtain ⟨index, hIndex, rfl⟩ := List.mem_map.mp hn
    exact UInt8.le_iff_toNat_le.mp
      (List.Pairwise.rel_getLast (s.ascending.imp UInt8.le_of_lt) hIndex)
  rw [highest, hMax, Option.getD_some]

/-- **The width of a bitmap** is set by the highest index. -/
theorem bitmapSize_eq_highest (s : Selection) : s.bitmapSize = max 3 (s.highest / 8 + 1) := by
  by_cases hNil : s.indices = []
  · rw [bitmapSize, highest, hNil]
    rfl
  · rw [bitmapSize, ← toNat_getLast_eq_highest hNil, List.getLast?_eq_some_getLast hNil,
      Option.map_some, Option.getD_some]

/-- The bits of an octet with one more bit. -/
theorem testBit_or_shiftLeft (octet index : UInt8) (n : Nat) :
    (octet ||| 1 <<< (index % 8)).toNat.testBit n = true ↔
      octet.toNat.testBit n = true ∨ index.toNat % 8 = n := by
  have hShift : (1 <<< (index % 8) : UInt8).toNat = 2 ^ (index.toNat % 8) := by
    have hLt : 2 ^ (index.toNat % 8) < 2 ^ 8 :=
      Nat.pow_lt_pow_right (by decide) (Nat.mod_lt _ (by decide))
    rw [UInt8.toNat_shiftLeft, UInt8.toNat_mod, UInt8.toNat_ofNat, UInt8.toNat_ofNat,
      Nat.mod_mod, Nat.one_shiftLeft, Nat.mod_eq_of_lt hLt]
  rw [UInt8.toNat_or, hShift, Nat.testBit_or, Nat.testBit_two_pow, Bool.or_eq_true,
    decide_eq_true_eq]

/-- **Setting a bit** in a bitmap that has an octet for it adds just this bit. -/
theorem setBit?_eq_some {bitmap : Bytes} {index : UInt8} (h : index.toNat / 8 < bitmap.length) :
    ∃ next, setBit? bitmap index = some next ∧ next.length = bitmap.length ∧
      ∀ b n, next.HasBit b n ↔ bitmap.HasBit b n ∨ n < 8 ∧ index.toNat = 8 * b + n := by
  have hOctet : bitmap[index.toNat / 8]? = some bitmap[index.toNat / 8] :=
    List.getElem?_eq_getElem h
  refine ⟨_, by rw [setBit?, hOctet, Option.map_some], List.length_set, fun b n => ?_⟩
  by_cases hb : index.toNat / 8 = b
  · subst hb
    have hNumber : index.toNat % 8 = n ↔ n < 8 ∧ index.toNat = 8 * (index.toNat / 8) + n := by
      omega
    rw [Bytes.HasBit, Bytes.HasBit, List.getElem?_set_self h, hOctet]
    simp only [Option.some.injEq, exists_eq_left', testBit_or_shiftLeft, hNumber]
  · have hNumber : ¬ (n < 8 ∧ index.toNat = 8 * b + n) := by omega
    rw [Bytes.HasBit, Bytes.HasBit, List.getElem?_set_ne hb]
    simp only [hNumber, or_false]

/-- **Setting the bits** of some indices, one after the other, in a bitmap that has an octet
for each of them. The width does not change, so each step finds the octet that it needs. -/
theorem foldlM_setBit? {indices : List UInt8} {bitmap : Bytes}
    (h : ∀ index ∈ indices, index.toNat / 8 < bitmap.length) :
    ∃ last, indices.foldlM setBit? bitmap = some last ∧ last.length = bitmap.length ∧
      ∀ b n, last.HasBit b n ↔
        bitmap.HasBit b n ∨ n < 8 ∧ ∃ index ∈ indices, index.toNat = 8 * b + n := by
  induction indices generalizing bitmap with
  | nil => exact ⟨bitmap, rfl, rfl, fun b n => by simp⟩
  | cons index rest ih =>
      obtain ⟨hFirst, hRest⟩ := List.forall_mem_cons.mp h
      obtain ⟨next, hNext, hLength, hBits⟩ := setBit?_eq_some hFirst
      obtain ⟨last, hLast, hLength', hBits'⟩ := ih (hLength ▸ hRest)
      refine ⟨last, ?_, hLength'.trans hLength, fun b n => ?_⟩
      · rw [List.foldlM_cons, hNext]
        exact hLast
      · rw [hBits', hBits, List.exists_mem_cons_iff, or_assoc, ← and_or_left]

/-- A bit of a bitmap is that of **an index** that the bitmap selects. -/
theorem exists_mem_ofBitmap_of_hasBit {bank : Algorithm} {bitmap : Bytes}
    (h : bitmap.length ≤ 32) {b n : Nat} (hBit : bitmap.HasBit b n) :
    ∃ index ∈ (ofBitmap bank bitmap).indices, index.toNat = 8 * b + n := by
  have hb := hBit.lt_length
  have hn := hBit.lt_eight
  have hToNat : (UInt8.ofNat (8 * b + n)).toNat = 8 * b + n :=
    UInt8.toNat_ofNat_of_lt' (by simp only [UInt8.size]; omega)
  exact ⟨_, (mem_ofBitmap_iff_hasBit h).mpr ⟨b, n, hBit, hToNat⟩, hToNat⟩

/-- The bits of the bitmap of a selection are its indices. -/
theorem hasBit_toBitmap_iff {s : Selection} {b n : Nat} :
    s.toBitmap.HasBit b n ↔ n < 8 ∧ ∃ index ∈ s.indices, index.toNat = 8 * b + n := by
  have hWidth : s.toBitmap.length ≤ 32 := s.length_toBitmap ▸ s.bitmapSize_le
  constructor
  · intro hBit
    have hIndex : ∃ index ∈ (ofBitmap s.bank s.toBitmap).indices, index.toNat = 8 * b + n :=
      exists_mem_ofBitmap_of_hasBit hWidth hBit
    rw [ofBitmap_toBitmap] at hIndex
    exact ⟨hBit.lt_eight, hIndex⟩
  · rintro ⟨hn, index, hIndex, hNumber⟩
    rw [← ofBitmap_toBitmap s, mem_ofBitmap_iff_hasBit hWidth] at hIndex
    obtain ⟨b', n', hBit, hNumber'⟩ := hIndex
    have hn' := hBit.lt_eight
    obtain ⟨rfl, rfl⟩ : b' = b ∧ n' = n := by omega
    exact hBit

/-- **The bitmap of a selection** is what is left when all its bits are set in a row of
zeros. -/
theorem foldlM_setBit?_replicate (s : Selection) :
    s.indices.foldlM setBit? (List.replicate s.bitmapSize 0) = some s.toBitmap := by
  have hWide : ∀ index ∈ s.indices,
      index.toNat / 8 < (List.replicate s.bitmapSize (0 : UInt8)).length := by
    intro index hIndex
    rw [List.length_replicate]
    exact div_lt_bitmapSize hIndex
  obtain ⟨last, hLast, hLength, hBits⟩ := foldlM_setBit? hWide
  have hZeros : ∀ b n, ¬ Bytes.HasBit (List.replicate s.bitmapSize 0) b n := fun b n hBit => by
    obtain ⟨octet, hOctet, -⟩ := Bytes.hasBit_append_replicate_iff (x := []).mp hBit
    cases hOctet
  have hSame : last = s.toBitmap := by
    refine (Bytes.paddedAlike_of_hasBit_iff fun b n => ?_).eq_of_length_eq ?_
    · rw [hBits, hasBit_toBitmap_iff, or_iff_right (hZeros b n)]
    · rw [hLength, List.length_replicate, length_toBitmap]
  rw [hLast, hSame]

/-! ### Reading a bitmap -/

/-- The bits of an octet have numbers that belong to its position. -/
theorem div_of_mem_octetBits {position : Nat} (h : position < 32) {octet index : UInt8}
    (hIndex : index ∈ octetBits position octet) : index.toNat / 8 = position := by
  obtain ⟨n, hn, -, rfl⟩ := mem_octetBits_iff.mp hIndex
  rw [UInt8.toNat_ofNat_of_lt' (by simp only [UInt8.size]; omega)]
  omega

/-- The numbers of the set bits of an octet ascend. -/
theorem octetBits_ascending {position : Nat} (h : position < 32) (octet : UInt8) :
    (octetBits position octet).Pairwise (· < ·) := by
  rw [octetBits, List.pairwise_map]
  refine (List.pairwise_lt_range.filter _).imp_of_mem fun {k n} hk hn hLt => ?_
  have hk' := List.mem_range.mp (List.mem_of_mem_filter hk)
  have hn' := List.mem_range.mp (List.mem_of_mem_filter hn)
  rw [UInt8.lt_iff_toNat_lt, UInt8.toNat_ofNat_of_lt' (by simp only [UInt8.size]; omega),
    UInt8.toNat_ofNat_of_lt' (by simp only [UInt8.size]; omega)]
  omega

/-- The numbers of some octets are those of their places or later ones. -/
theorem div_of_mem_bitNumbers {position : Nat} {bitmap : Bytes}
    (h : position + bitmap.length ≤ 32) {index : UInt8}
    (hIndex : index ∈ bitNumbers position bitmap) : position ≤ index.toNat / 8 := by
  induction bitmap generalizing position with
  | nil => cases hIndex
  | cons octet rest ih =>
      rw [List.length_cons] at h
      rw [bitNumbers, List.mem_append] at hIndex
      rcases hIndex with hFirst | hRest
      · exact (div_of_mem_octetBits (by omega) hFirst).ge
      · exact Nat.le_of_succ_le (ih (by omega) hRest)

/-- **The numbers of the set bits ascend.** Those of an octet are all below those of the
next. -/
theorem bitNumbers_ascending {position : Nat} {bitmap : Bytes}
    (h : position + bitmap.length ≤ 32) : (bitNumbers position bitmap).Pairwise (· < ·) := by
  induction bitmap generalizing position with
  | nil => exact .nil
  | cons octet rest ih =>
      rw [List.length_cons] at h
      rw [bitNumbers, List.pairwise_append]
      refine ⟨octetBits_ascending (by omega) octet, ih (by omega), ?_⟩
      intro index hFirst later hRest
      have hFirst' := div_of_mem_octetBits (by omega) hFirst
      have hRest' := div_of_mem_bitNumbers (by omega) hRest
      rw [UInt8.lt_iff_toNat_lt]
      omega

/-- **The indices of a bitmap** are the numbers of its set bits, in the order of the bits. -/
theorem indices_ofBitmap {bank : Algorithm} {bitmap : Bytes} (h : bitmap.length ≤ 32) :
    (ofBitmap bank bitmap).indices = bitNumbers 0 bitmap := by
  refine (ofBitmap bank bitmap).ascending.eq_of_mem_iff
    (bitNumbers_ascending (Nat.zero_add _ ▸ h)) fun {index} => ?_
  rw [ofBitmap, mem_ofIndices_iff]

/-- An index is selected when **its own bit** is set. -/
theorem mem_ofBitmap_iff_hasBit_div {bank : Algorithm} {bitmap : Bytes}
    (h : bitmap.length ≤ 32) {index : UInt8} :
    index ∈ (ofBitmap bank bitmap).indices ↔
      bitmap.HasBit (index.toNat / 8) (index.toNat % 8) := by
  rw [mem_ofBitmap_iff_hasBit h]
  constructor
  · rintro ⟨b, n, hBit, hNumber⟩
    have hn := hBit.lt_eight
    obtain ⟨rfl, rfl⟩ : b = index.toNat / 8 ∧ n = index.toNat % 8 := by omega
    exact hBit
  · intro hBit
    exact ⟨_, _, hBit, (Nat.div_add_mod _ _).symm⟩

/-! ### There and back -/

/-- The bits of a bitmap are those of the bitmap that is made for its indices. -/
theorem hasBit_toBitmap_ofBitmap_iff {bank : Algorithm} {bitmap : Bytes} (h : bitmap.length ≤ 32)
    {b n : Nat} : (ofBitmap bank bitmap).toBitmap.HasBit b n ↔ bitmap.HasBit b n := by
  rw [hasBit_toBitmap_iff]
  constructor
  · rintro ⟨hn, index, hIndex, hNumber⟩
    rw [mem_ofBitmap_iff_hasBit_div h] at hIndex
    obtain ⟨rfl, rfl⟩ : b = index.toNat / 8 ∧ n = index.toNat % 8 := by omega
    exact hIndex
  · intro hBit
    exact ⟨hBit.lt_eight, exists_mem_ofBitmap_of_hasBit h hBit⟩

/-- A bitmap without the zeros that it ends with reaches to the **highest** index. -/
theorem length_rdropWhile_eq {bank : Algorithm} {bitmap : Bytes} (h : bitmap.length ≤ 32)
    (hNe : bitmap.rdropWhile (· == 0) ≠ []) :
    (bitmap.rdropWhile (· == 0)).length = (ofBitmap bank bitmap).highest / 8 + 1 := by
  have hPos := List.length_pos_of_ne_nil hNe
  -- The last octet that is left is not zero, so an index has its bit there.
  obtain ⟨n, hn⟩ := Bytes.exists_testBit_of_ne_zero
    (by simpa using List.rdropWhile_last_not _ bitmap hNe)
  have hBit : (ofBitmap bank bitmap).toBitmap.HasBit
      ((bitmap.rdropWhile (· == 0)).length - 1) n := by
    rw [hasBit_toBitmap_ofBitmap_iff h, ← Bytes.hasBit_rdropWhile_iff,
      Bytes.hasBit_getElem_iff (by omega), ← List.getLast_eq_getElem hNe]
    exact hn
  obtain ⟨hn', index, hIndex, hNumber⟩ := hasBit_toBitmap_iff.mp hBit
  have hLe := toNat_le_highest hIndex
  -- The highest index has its bit in an octet that is left.
  have hIndices := List.ne_nil_of_mem hIndex
  have hLast := (mem_ofBitmap_iff_hasBit_div h).mp (List.getLast_mem hIndices)
  rw [← Bytes.hasBit_rdropWhile_iff, toNat_getLast_eq_highest] at hLast
  have hLt := hLast.lt_length
  omega

/-- **The bitmap that comes back** has no zeros at its end but those that a bank needs. -/
theorem toBitmap_ofBitmap {bank : Algorithm} {bitmap : Bytes} (h : bitmap.length ≤ 32) :
    (ofBitmap bank bitmap).toBitmap = (bitmap.rdropWhile (· == 0)).rightpad 3 0 := by
  refine (Bytes.paddedAlike_of_hasBit_iff fun b n => ?_).eq_of_length_eq ?_
  · rw [hasBit_toBitmap_ofBitmap_iff h, Bytes.hasBit_rightpad_iff, Bytes.hasBit_rdropWhile_iff]
  rw [length_toBitmap, bitmapSize_eq_highest, List.length_rightpad]
  by_cases hNil : bitmap.rdropWhile (· == 0) = []
  · have hNone : (ofBitmap bank bitmap).indices = [] := by
      refine List.eq_nil_iff_forall_not_mem.mpr fun index hIndex => ?_
      rw [mem_ofBitmap_iff_hasBit_div h, ← Bytes.hasBit_rdropWhile_iff, hNil] at hIndex
      exact absurd hIndex.lt_length (Nat.not_lt_zero _)
    rw [highest, hNone, hNil]
    rfl
  · rw [length_rdropWhile_eq h hNil]

/-- **Bitmaps and sets of indices are inverse.** Setting the bits of the indices of a selection
never misses an octet and gives its bitmap, which has as many octets as the highest index needs
and a bank at least, and describes the selection. A bitmap of up to 32 octets selects the
indices whose own bits are set, in the order of the bits, and comes back without the zeros at
its end, but with as many as a bank needs. -/
theorem bitmap_inverse :
    (∀ s : Selection,
      s.indices.foldlM setBit? (List.replicate (max 3 (s.highest / 8 + 1)) 0) = some s.toBitmap ∧
      s.toBitmap.length = max 3 (s.highest / 8 + 1) ∧ s.toBitmap.length ≤ 32 ∧
      ofBitmap s.bank s.toBitmap = s) ∧
    ∀ (bank : Algorithm) (bitmap : Bytes), bitmap.length ≤ 32 →
      (ofBitmap bank bitmap).bank = bank ∧
      (∀ index, index ∈ (ofBitmap bank bitmap).indices ↔
        bitmap.HasBit (index.toNat / 8) (index.toNat % 8)) ∧
      (ofBitmap bank bitmap).indices = bitNumbers 0 bitmap ∧
      (bitNumbers 0 bitmap).Pairwise (· < ·) ∧
      (ofBitmap bank bitmap).toBitmap = (bitmap.rdropWhile (· == 0)).rightpad 3 0 := by
  constructor
  · intro s
    rw [← bitmapSize_eq_highest]
    exact ⟨s.foldlM_setBit?_replicate, s.length_toBitmap, s.length_toBitmap ▸ s.bitmapSize_le,
      s.ofBitmap_toBitmap⟩
  · intro bank bitmap h
    exact ⟨rfl, fun index => mem_ofBitmap_iff_hasBit_div h, indices_ofBitmap h,
      bitNumbers_ascending (Nat.zero_add _ ▸ h), toBitmap_ofBitmap h⟩

/-- The widest bitmap, with the bits of indices at the borders of octets, comes back as it is.
One with the bit of index 8 alone, and zeros behind it, comes back with three octets. -/
theorem bitmap_inverse_of_borders :
    (0x81 :: List.replicate 30 0 ++ [0x80] : Bytes).length ≤ 32 ∧
    (ofBitmap .sha256 (0x81 :: List.replicate 30 0 ++ [0x80])).indices = [0, 7, 255] ∧
    (ofBitmap .sha256 (0x81 :: List.replicate 30 0 ++ [0x80])).toBitmap =
      0x81 :: List.replicate 30 0 ++ [0x80] ∧
    (ofBitmap .sha1 [0, 1, 0, 0, 0]).toBitmap = [0, 1, 0] := by
  have hWide : (0x81 :: List.replicate 30 0 ++ [0x80] : Bytes).length ≤ 32 := by decide
  obtain ⟨-, -, hIndices, -, hBack⟩ := bitmap_inverse.2 .sha256 _ hWide
  obtain ⟨-, -, -, -, hShort⟩ := bitmap_inverse.2 .sha1 [0, 1, 0, 0, 0] (by decide)
  exact ⟨hWide, hIndices.trans (by decide), hBack.trans (by decide), hShort.trans (by decide)⟩

end Selection

end RemoteAttestation
