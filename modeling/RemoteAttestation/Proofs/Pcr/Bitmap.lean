import Mathlib.Data.List.Pairwise
import RemoteAttestation.Proofs.Pcr.Selection

/-!
# Selections and Their Bitmaps

A bitmap is another way to write a set of indices: bit `n` of octet `b` stands for index
`8 * b + n`. Everything about bitmaps is said about single bits, and a selection is known when
its indices are (`Selection.ext_mem`).

## Main results

* `Selection.mem_ofBitmap_iff`: the indices that a bitmap selects.
* `Selection.testBit_bitmapOctet`: the bits of the bitmap of a selection.
* `Selection.ofBitmap_toBitmap`: the bitmap of a selection describes it.
-/

namespace RemoteAttestation

namespace Selection

/-! ### Bits of a bitmap -/

/-- The numbers of an octet are those of its set bits, counted from its position. -/
theorem mem_octetBits_iff {position : Nat} {octet index : UInt8} :
    index ∈ octetBits position octet ↔
      ∃ n < 8, octet.toNat.testBit n = true ∧ UInt8.ofNat (8 * position + n) = index := by
  simp only [octetBits, List.mem_map, List.mem_filter, List.mem_range, and_assoc]

/-- The numbers of a bitmap are those of the set bits of its octets. -/
theorem mem_bitNumbers_iff {position : Nat} {bitmap : Bytes} {index : UInt8} :
    index ∈ bitNumbers position bitmap ↔
      ∃ k octet, bitmap[k]? = some octet ∧ ∃ n < 8, octet.toNat.testBit n = true ∧
        UInt8.ofNat (8 * (position + k) + n) = index := by
  induction bitmap generalizing position with
  | nil => simp [bitNumbers]
  | cons first rest ih =>
      rw [bitNumbers, List.mem_append, mem_octetBits_iff, ih]
      have hNext : ∀ k, position + (k + 1) = position + 1 + k := fun k => by omega
      constructor
      · rintro (h | ⟨k, octet, hOctet, h⟩)
        · exact ⟨0, first, rfl, h⟩
        · exact ⟨k + 1, octet, hOctet, hNext k ▸ h⟩
      · rintro ⟨k, octet, hOctet, h⟩
        cases k with
        | zero =>
            obtain rfl : first = octet := Option.some.inj hOctet
            exact .inl h
        | succ k => exact .inr ⟨k, octet, hOctet, hNext k ▸ h⟩

/-- A bitmap **selects** an index when one of its bits has that number. -/
theorem mem_ofBitmap_iff {bank : Algorithm} {bitmap : Bytes} {index : UInt8} :
    index ∈ (ofBitmap bank bitmap).indices ↔
      ∃ k octet, bitmap[k]? = some octet ∧ ∃ n < 8, octet.toNat.testBit n = true ∧
        UInt8.ofNat (8 * k + n) = index := by
  rw [ofBitmap, mem_ofIndices_iff, mem_bitNumbers_iff]
  simp only [Nat.zero_add]

/-! ### The bitmap of a selection -/

/-- Setting a bit of a number leaves its other bits. -/
theorem testBit_setBit (b : Bool) (octet k n : Nat) :
    (if b then octet ||| 1 <<< k else octet).testBit n =
      (octet.testBit n || (decide (k = n) && b)) := by
  cases b with
  | false => simp
  | true => simp [Nat.one_shiftLeft, Nat.testBit_two_pow]

/-- An octet that is put together bit by bit has the bits that were asked for. -/
theorem testBit_foldl_setBit (f : Nat → Bool) (width n : Nat) :
    ((List.range width).foldl (fun octet k => if f k then octet ||| 1 <<< k else octet) 0).testBit n
      = (decide (n < width) && f n) := by
  induction width with
  | zero => simp
  | succ width ih =>
      rw [List.range_succ, List.foldl_append, List.foldl_cons, List.foldl_nil, testBit_setBit, ih]
      by_cases hn : width = n
      · subst hn
        simp
      · have hLt : n < width + 1 ↔ n < width := by omega
        simp only [hn, hLt, decide_false, Bool.false_and, Bool.or_false]

/-- The **bits** of an octet of a bitmap are the selected indices among eight. -/
theorem testBit_bitmapOctet {s : Selection} {position n : Nat} (h : n < 8) :
    (s.bitmapOctet position).toNat.testBit n =
      s.contains (UInt8.ofNat (8 * position + n)) := by
  rw [bitmapOctet, UInt8.toNat_ofNat', Nat.testBit_mod_two_pow,
    testBit_foldl_setBit (fun n => s.contains (UInt8.ofNat (8 * position + n))), decide_eq_true h,
    Bool.true_and, Bool.true_and]

/-- A bitmap is as wide as its selection needs. -/
@[simp] theorem length_toBitmap (s : Selection) : s.toBitmap.length = s.bitmapSize := by
  rw [toBitmap, List.length_map, List.length_range]

/-- The widest bitmap reaches to the highest index there is. -/
theorem bitmapSize_le (s : Selection) : s.bitmapSize ≤ 32 := by
  have hLast : (s.indices.getLast?.map UInt8.toNat).getD 0 < 256 := by
    cases s.indices.getLast? with
    | none => decide
    | some index => exact index.toNat_lt
  rw [bitmapSize]
  omega

/-- The width of a bitmap fits in its octet. -/
theorem toNat_width (s : Selection) :
    (UInt8.ofNat s.toBitmap.length).toNat = s.toBitmap.length := by
  have hLe := s.bitmapSize_le
  rw [← s.length_toBitmap] at hLe
  exact UInt8.toNat_ofNat_of_lt' (Nat.lt_of_le_of_lt hLe (by decide))

/-- The bitmap of a selection is long enough for each of its indices: the last one is the
highest. -/
theorem div_lt_bitmapSize {s : Selection} {index : UInt8} (h : index ∈ s.indices) :
    index.toNat / 8 < s.bitmapSize := by
  have hNe : s.indices ≠ [] := List.ne_nil_of_mem h
  have hLast : index ≤ s.indices.getLast hNe :=
    List.Pairwise.rel_getLast (s.ascending.imp UInt8.le_of_lt) h
  have hLe : index.toNat ≤ (s.indices.getLast hNe).toNat := UInt8.le_iff_toNat_le.mp hLast
  rw [bitmapSize, List.getLast?_eq_getLast_of_ne_nil hNe, Option.map_some, Option.getD_some]
  omega

/-- The octets of a bitmap, at every place that it has. -/
theorem getElem?_toBitmap_eq_some_iff {s : Selection} {k : Nat} {octet : UInt8} :
    s.toBitmap[k]? = some octet ↔ k < s.bitmapSize ∧ s.bitmapOctet k = octet := by
  rw [toBitmap, List.getElem?_map]
  by_cases hk : k < s.bitmapSize
  · simp [hk]
  · simp [hk]

/-- **The bitmap of a selection describes it.** -/
theorem ofBitmap_toBitmap (s : Selection) : ofBitmap s.bank s.toBitmap = s := by
  refine ext_mem rfl fun index => ?_
  rw [mem_ofBitmap_iff]
  constructor
  · rintro ⟨k, octet, hOctet, n, hn, hBit, rfl⟩
    obtain ⟨-, rfl⟩ := getElem?_toBitmap_eq_some_iff.mp hOctet
    rw [testBit_bitmapOctet hn, contains] at hBit
    exact List.contains_iff_mem.mp hBit
  · intro hIndex
    have hNumber : UInt8.ofNat (8 * (index.toNat / 8) + index.toNat % 8) = index := by
      rw [Nat.div_add_mod, UInt8.ofNat_toNat]
    refine ⟨index.toNat / 8, s.bitmapOctet (index.toNat / 8), ?_, index.toNat % 8,
      Nat.mod_lt _ (by decide), ?_, hNumber⟩
    · exact getElem?_toBitmap_eq_some_iff.mpr ⟨div_lt_bitmapSize hIndex, rfl⟩
    · rw [testBit_bitmapOctet (Nat.mod_lt _ (by decide)), hNumber, contains]
      exact List.contains_iff_mem.mpr hIndex

end Selection

end RemoteAttestation
