import RemoteAttestation.Der.KeyInfo
import RemoteAttestation.Proofs.Bytes.Width

/-!
# Elements, Written

There is one way to write an element: its tag, its length in the shortest form, and its
content. So reading elements is exact. A string begins with an element just when the element as
it is written stands in front, it is a list of elements just when they are written one after
the other, and it describes a key just when it is the key, written.

An element can be written when its tag is one and its content is not too long. Of the elements
inside another one only the tags are in question, since they are shorter than what they stand
in.

## Main results

* `Der.readLength?_eq_some_iff`: reading a length is exact.
* `Der.readElement?_eq_some_iff`, `Der.elements?_eq_some_iff`: so is reading elements.
* `Der.keyInfo?_eq_some_iff`: the strings that describe a key.
-/

namespace RemoteAttestation.Der

open Arithmetic

/-! ### Lengths -/

/-- A **length** as it is written: in one octet below 128, and otherwise in as many octets as
it needs, behind their number. -/
def writeLength (n : Nat) : Bytes :=
  if n < 0x80 then [UInt8.ofNat n]
  else UInt8.ofNat (0x80 + octetLength n) :: Bytes.ofNat (octetLength n) n

variable {b rest : Bytes} {n size : Nat}

/-- A length in several octets is read when it **needs all of them**. -/
theorem readLongLength?_eq_some_iff (hSize : 1 ≤ size) :
    readLongLength? size b = some (n, rest) ↔
      0x80 ≤ n ∧ n ≤ maxLength ∧ octetLength n = size ∧ b = Bytes.ofNat size n ++ rest := by
  have hPow : 1 <<< (8 * (size - 1)) = 256 ^ (size - 1) := by
    rw [Nat.one_shiftLeft, Nat.pow_mul]
  have hNeeds : ∀ m, octetLength m = size ↔ m < 256 ^ size ∧ ¬ m < 256 ^ (size - 1) := by
    intro m
    rw [← octetLength_le_iff, ← octetLength_le_iff]
    omega
  rw [readLongLength?, hPow]
  constructor
  · intro h
    split at h
    · cases h
    rename_i hLong
    have hTake : (b.take size).length = size := List.length_take_of_le (Nat.not_lt.mp hLong)
    have hLt := Bytes.value_lt (b.take size)
    have hWritten := Bytes.ofNat_value (b.take size)
    rw [hTake] at hLt hWritten
    dsimp only at h
    split at h
    · cases h
    rename_i hRange
    obtain ⟨hShort, hPadded, hMax⟩ : ¬ _ ∧ ¬ _ ∧ ¬ _ := by simpa only [not_or] using hRange
    obtain ⟨rfl, rfl⟩ := Prod.mk.inj (Option.some.inj h)
    refine ⟨Nat.not_lt.mp hShort, Nat.not_lt.mp hMax, (hNeeds _).mpr ⟨hLt, hPadded⟩, ?_⟩
    rw [hWritten, List.take_append_drop]
  · rintro ⟨hShort, hMax, hOctets, rfl⟩
    obtain ⟨hLt, hPadded⟩ := (hNeeds n).mp hOctets
    have hLong : ¬ (Bytes.ofNat size n ++ rest).length < size := by
      rw [List.length_append, Bytes.length_ofNat]
      omega
    have hTake : (Bytes.ofNat size n ++ rest).take size = Bytes.ofNat size n :=
      List.take_left' (Bytes.length_ofNat _ _)
    have hDrop : (Bytes.ofNat size n ++ rest).drop size = rest :=
      List.drop_left' (Bytes.length_ofNat _ _)
    rw [if_neg hLong, hTake, hDrop, Bytes.value_ofNat_of_lt hLt]
    rw [if_neg (by omega)]

/-- A length that can be read takes up to four octets behind their number. -/
theorem octetLength_range (hShort : 0x80 ≤ n) (hMax : n ≤ maxLength) :
    1 ≤ octetLength n ∧ octetLength n ≤ 4 := by
  have hFour : maxLength < 256 ^ 4 := by decide
  refine ⟨?_, octetLength_le_iff.mpr (Nat.lt_of_le_of_lt hMax hFour)⟩
  have hZero : ¬ octetLength n ≤ 0 := by
    rw [octetLength_le_iff]
    omega
  omega

/-- The first octet of a length, as a number, says how the length is written. -/
theorem readLength?_cons (first : UInt8) (tail : Bytes) :
    readLength? (first :: tail) =
      if first.toNat < 0x80 then some (first.toNat, tail)
      else if first.toNat = 0x80 ∨ 0x84 < first.toNat then none
      else readLongLength? (first.toNat - 0x80) tail := by
  have hEmpty : first = 0x80 ↔ first.toNat = 0x80 := UInt8.toNat_inj.symm
  simp only [readLength?, UInt8.lt_iff_toNat_lt, hEmpty]
  rfl

/-- **Reading a length is exact.** -/
theorem readLength?_eq_some_iff :
    readLength? b = some (n, rest) ↔ n ≤ maxLength ∧ b = writeLength n ++ rest := by
  constructor
  · intro h
    cases b with
    | nil => cases h
    | cons first tail =>
        rw [readLength?_cons] at h
        split_ifs at h with hShort hCount
        · obtain ⟨rfl, rfl⟩ := Prod.mk.inj (Option.some.inj h)
          have hMax : 0x80 ≤ maxLength := by decide +kernel
          refine ⟨by omega, ?_⟩
          rw [writeLength, if_pos hShort, UInt8.ofNat_toNat, List.singleton_append]
        · obtain ⟨hLong, hMax, hOctets, hTail⟩ := (readLongLength?_eq_some_iff (by omega)).mp h
          have hFirst : 0x80 + octetLength n = first.toNat := by omega
          refine ⟨hMax, ?_⟩
          rw [writeLength, if_neg (Nat.not_lt.mpr hLong), hFirst, UInt8.ofNat_toNat, hOctets, hTail,
            List.cons_append]
  · rintro ⟨hMax, rfl⟩
    rw [writeLength]
    split
    · rename_i hShort
      have hFirst : (UInt8.ofNat n).toNat = n :=
        UInt8.toNat_ofNat_of_lt' (Nat.lt_trans hShort (by decide))
      rw [List.singleton_append, readLength?_cons, hFirst, if_pos hShort]
    · rename_i hLong
      obtain ⟨hOne, hFour⟩ := octetLength_range (Nat.not_lt.mp hLong) hMax
      have hFirst : (UInt8.ofNat (0x80 + octetLength n)).toNat = 0x80 + octetLength n :=
        UInt8.toNat_ofNat_of_lt' (Nat.lt_of_le_of_lt (Nat.add_le_add_left hFour _) (by decide))
      rw [List.cons_append, readLength?_cons, hFirst, if_neg (by omega), if_neg (by omega),
        Nat.add_sub_cancel_left]
      exact (readLongLength?_eq_some_iff hOne).mpr ⟨Nat.not_lt.mp hLong, hMax, rfl, rfl⟩

/-! ### Elements -/

/-- An element as it is **written**. -/
def Element.write (e : Element) : Bytes :=
  e.tag :: writeLength e.content.length ++ e.content

/-- An element that **can be written**: its tag is one, and its content is not too long. -/
structure Element.Writable (e : Element) : Prop where
  /-- The tag is one. -/
  isTag : isTag e.tag = true
  /-- The content is not too long. -/
  length_le : e.content.length ≤ maxLength

variable {e : Element} {es : List Element}

/-- Tag and length take up to six octets. -/
theorem Element.length_write_le (h : e.content.length ≤ maxLength) :
    e.write.length ≤ e.content.length + 6 := by
  rw [Element.write, List.cons_append, List.length_cons, List.length_append, writeLength]
  split
  · rw [List.length_singleton]
    omega
  · rename_i hShort
    have hRange := octetLength_range (Nat.not_lt.mp hShort) h
    rw [List.length_cons, Bytes.length_ofNat]
    omega

/-- **Reading an element is exact.** -/
theorem readElement?_eq_some_iff :
    readElement? b = some (e, rest) ↔ e.Writable ∧ b = e.write ++ rest := by
  constructor
  · intro h
    cases b with
    | nil => cases h
    | cons tag tail =>
        rw [readElement?] at h
        split at h
        · cases h
        rename_i hTag
        split at h
        · cases h
        rename_i length body hLength
        split at h
        · cases h
        rename_i hLong
        obtain ⟨rfl, rfl⟩ := Prod.mk.inj (Option.some.inj h)
        obtain ⟨hMax, rfl⟩ := readLength?_eq_some_iff.mp hLength
        have hTake : (body.take length).length = length :=
          List.length_take_of_le (Nat.not_lt.mp hLong)
        have hBody : body = body.take length ++ body.drop length :=
          (List.take_append_drop _ _).symm
        refine ⟨⟨by simpa using hTag, hTake.trans_le hMax⟩, ?_⟩
        rw [Element.write, hTake, List.append_assoc, List.cons_append, ← hBody]
  · rintro ⟨hWritable, rfl⟩
    have hLength : readLength? (writeLength e.content.length ++ (e.content ++ rest)) =
        some (e.content.length, e.content ++ rest) :=
      readLength?_eq_some_iff.mpr ⟨hWritable.length_le, rfl⟩
    have hLong : ¬ (e.content ++ rest).length < e.content.length := by
      rw [List.length_append]
      omega
    rw [Element.write, List.append_assoc, List.cons_append, readElement?, hWritable.isTag, hLength]
    simp only [Bool.not_true, Bool.false_eq_true, if_false, if_neg hLong, List.take_left,
      List.drop_left]

/-- Only nothing is written as nothing, since every element has a tag. -/
theorem flatMap_write_eq_nil_iff : es.flatMap Element.write = [] ↔ es = [] := by
  cases es with
  | nil => exact iff_of_true rfl rfl
  | cons e es =>
      rw [List.flatMap_cons, Element.write, List.cons_append, List.cons_append]
      exact iff_of_false nofun nofun

/-- An empty string is the empty list of elements. -/
theorem readElements?_nil_eq_some_iff {count : Nat} :
    readElements? count [] = some es ↔
      es.length ≤ count ∧ (∀ e ∈ es, e.Writable) ∧ [] = es.flatMap Element.write := by
  have hNil : readElements? count [] = some [] := by
    cases count with
    | zero => rfl
    | succ count => rfl
  rw [hNil]
  constructor
  · intro h
    obtain rfl := Option.some.inj h
    exact ⟨Nat.zero_le _, nofun, rfl⟩
  · rintro ⟨-, -, hWritten⟩
    rw [flatMap_write_eq_nil_iff.mp hWritten.symm]

/-- **Reading a list of elements is exact**, as long as there are no more of them than
expected. -/
theorem readElements?_eq_some_iff {count : Nat} :
    readElements? count b = some es ↔
      es.length ≤ count ∧ (∀ e ∈ es, e.Writable) ∧ b = es.flatMap Element.write := by
  induction count generalizing b es with
  | zero =>
      cases b with
      | nil => exact readElements?_nil_eq_some_iff
      | cons octet b =>
          refine iff_of_false nofun ?_
          rintro ⟨hLength, -, hWritten⟩
          obtain rfl := List.length_eq_zero_iff.mp (Nat.le_zero.mp hLength)
          cases hWritten
  | succ count ih =>
      cases b with
      | nil => exact readElements?_nil_eq_some_iff
      | cons octet b =>
          simp only [readElements?]
          constructor
          · intro h
            obtain ⟨⟨e, rest⟩, hFirst, hOthers⟩ := Option.bind_eq_some_iff.mp h
            obtain ⟨others, hRest, hEq⟩ := Option.bind_eq_some_iff.mp hOthers
            obtain rfl := Option.some.inj hEq
            obtain ⟨hWritable, hWritten⟩ := readElement?_eq_some_iff.mp hFirst
            obtain ⟨hLength, hAll, rfl⟩ := ih.mp hRest
            exact ⟨Nat.succ_le_succ hLength, List.forall_mem_cons.mpr ⟨hWritable, hAll⟩, hWritten⟩
          · rintro ⟨hLength, hAll, hWritten⟩
            cases es with
            | nil => cases hWritten
            | cons e others =>
                obtain ⟨hWritable, hOthers⟩ := List.forall_mem_cons.mp hAll
                have hFirst := readElement?_eq_some_iff.mpr ⟨hWritable, hWritten⟩
                have hRest := ih.mpr ⟨Nat.le_of_succ_le_succ hLength, hOthers, rfl⟩
                exact Option.bind_eq_some_iff.mpr
                  ⟨_, hFirst, Option.bind_eq_some_iff.mpr ⟨others, hRest, rfl⟩⟩

/-- There are not more elements than octets. -/
theorem length_le_length_flatMap_write (es : List Element) :
    es.length ≤ (es.flatMap Element.write).length := by
  induction es with
  | nil => exact Nat.zero_le _
  | cons e es ih =>
      rw [List.flatMap_cons, List.length_append, Element.write, List.cons_append, List.length_cons,
        List.length_cons]
      omega

/-- The elements that a string is are those that are **written one after the other** in it. -/
theorem elements?_eq_some_iff :
    elements? b = some es ↔ (∀ e ∈ es, e.Writable) ∧ b = es.flatMap Element.write := by
  rw [elements?, readElements?_eq_some_iff]
  constructor
  · rintro ⟨-, h⟩
    exact h
  · rintro ⟨hAll, rfl⟩
    exact ⟨length_le_length_flatMap_write es, hAll, rfl⟩

/-- A string is an element when it is the element, **written**. -/
theorem element?_eq_some_iff : element? b = some e ↔ e.Writable ∧ b = e.write := by
  have hExact : element? b = some e ↔ readElement? b = some (e, []) := by
    rw [element?]
    constructor
    · intro h
      split at h
      · rename_i element hRead
        obtain rfl := Option.some.inj h
        exact hRead
      · cases h
    · intro h
      rw [h]
  rw [hExact, readElement?_eq_some_iff, List.append_nil]

/-! ### Sequences -/

/-- The sequence of some elements. -/
def Element.sequence (es : List Element) : Element :=
  ⟨sequenceTag, es.flatMap Element.write⟩

/-- An element has a content under a tag when it is made of the two. -/
theorem tagged?_eq_some_iff {tag : UInt8} {content : Bytes} :
    tagged? tag e = some content ↔ e = ⟨tag, content⟩ := by
  obtain ⟨tag', content'⟩ := e
  rw [tagged?]
  split
  · rename_i hTag
    obtain rfl : tag' = tag := hTag
    simp
  · rename_i hTag
    refine iff_of_false nofun fun hEq => hTag ?_
    exact (Element.mk.inj hEq).1

/-- An element is taken for a sequence when it **writes one**, of parts that can be written. -/
theorem sequence?_eq_some_iff :
    sequence? e = some es ↔ (∀ e ∈ es, e.Writable) ∧ e = .sequence es := by
  rw [sequence?, Option.bind_eq_some_iff]
  constructor
  · rintro ⟨content, hTagged, hElements⟩
    obtain rfl := tagged?_eq_some_iff.mp hTagged
    obtain ⟨hAll, rfl⟩ := elements?_eq_some_iff.mp hElements
    exact ⟨hAll, rfl⟩
  · rintro ⟨hAll, rfl⟩
    exact ⟨_, tagged?_eq_some_iff.mpr rfl, elements?_eq_some_iff.mpr ⟨hAll, rfl⟩⟩

/-- **What stands in an element** that can be written can be written, as far as the tags go. -/
theorem Element.Writable.of_mem_sequence (h : (Element.sequence es).Writable) (he : e ∈ es)
    (hTag : Der.isTag e.tag = true) : e.Writable := by
  refine ⟨hTag, ?_⟩
  have hLength : e.write.length ≤ (es.flatMap Element.write).length :=
    (List.sublist_flatten_of_mem (List.mem_map_of_mem he)).length_le
  have hContent : e.content.length ≤ e.write.length := by
    rw [Element.write, List.length_append]
    exact Nat.le_add_left _ _
  exact (hContent.trans hLength).trans h.length_le

/-! ### Keys -/

/-- What is made of a content under a tag is made of the content of that element. -/
theorem tagged?_bind_eq_some_iff {α : Type} {tag : UInt8} {f : Bytes → Option α} {a : α} :
    (tagged? tag e).bind f = some a ↔ ∃ content, e = ⟨tag, content⟩ ∧ f content = some a := by
  simp only [Option.bind_eq_some_iff, tagged?_eq_some_iff]

/-- A string of whole octets has a zero in front. -/
theorem bitString?_eq_some_iff {octets : Bytes} :
    bitString? b = some ⟨0, octets⟩ ↔ b = 0 :: octets := by
  constructor
  · intro h
    cases b with
    | nil => cases h
    | cons unused rest =>
        rw [bitString?] at h
        split at h
        · cases h
        obtain ⟨hUnused, rfl⟩ := BitString.mk.inj (Option.some.inj h)
        have hZero : unused = 0 := UInt8.toNat_inj.mp hUnused
        rw [hZero]
  · rintro rfl
    have hWhole : ¬ ((7 : UInt8) < 0 ∨ octets = [] ∧ (0 : UInt8) ≠ 0) := by simp
    rw [bitString?, if_neg hWhole, UInt8.toNat_zero]

/-- An element names an algorithm when it holds the **identifier**, and the parameter if there
is one. -/
theorem algorithm?_eq_some_iff {algorithm : AlgorithmInfo} :
    algorithm? e = some algorithm ↔
      ∃ content, identifier? content = some algorithm.id ∧
        sequence? e = some (⟨identifierTag, content⟩ :: algorithm.parameter.toList) := by
  obtain ⟨id, parameter⟩ := algorithm
  rw [algorithm?]
  constructor
  · intro h
    obtain ⟨es, hSequence, hParts⟩ := Option.bind_eq_some_iff.mp h
    split at hParts
    · obtain ⟨found, hFound, hEq⟩ := Option.bind_eq_some_iff.mp hParts
      obtain ⟨rfl, rfl⟩ := AlgorithmInfo.mk.inj (Option.some.inj hEq)
      obtain ⟨content, rfl, hContent⟩ := tagged?_bind_eq_some_iff.mp hFound
      exact ⟨content, hContent, hSequence⟩
    · obtain ⟨found, hFound, hEq⟩ := Option.bind_eq_some_iff.mp hParts
      obtain ⟨rfl, rfl⟩ := AlgorithmInfo.mk.inj (Option.some.inj hEq)
      obtain ⟨content, rfl, hContent⟩ := tagged?_bind_eq_some_iff.mp hFound
      exact ⟨content, hContent, hSequence⟩
    · cases hParts
  · rintro ⟨content, hContent, hSequence⟩
    have hFound : (tagged? identifierTag ⟨identifierTag, content⟩).bind identifier? = some id :=
      tagged?_bind_eq_some_iff.mpr ⟨content, rfl, hContent⟩
    refine Option.bind_eq_some_iff.mpr ⟨_, hSequence, ?_⟩
    cases parameter with
    | none => exact Option.bind_eq_some_iff.mpr ⟨id, hFound, rfl⟩
    | some parameter => exact Option.bind_eq_some_iff.mpr ⟨id, hFound, rfl⟩

/-- An element holds a key when it holds its **algorithm and its bits**. -/
theorem elementKeyInfo?_eq_some_iff {info : KeyInfo} :
    elementKeyInfo? e = some info ↔
      ∃ algorithm bits, algorithm? algorithm = some info.algorithm ∧
        bitString? bits = some info.key ∧
          sequence? e = some [algorithm, ⟨bitStringTag, bits⟩] := by
  obtain ⟨algorithmInfo, key⟩ := info
  rw [elementKeyInfo?]
  constructor
  · intro h
    obtain ⟨es, hSequence, hParts⟩ := Option.bind_eq_some_iff.mp h
    split at hParts
    · rename_i algorithm bits
      obtain ⟨found, hAlgorithm, hOthers⟩ := Option.bind_eq_some_iff.mp hParts
      obtain ⟨foundKey, hBits, hEq⟩ := Option.bind_eq_some_iff.mp hOthers
      obtain ⟨rfl, rfl⟩ := KeyInfo.mk.inj (Option.some.inj hEq)
      obtain ⟨content, rfl, hContent⟩ := tagged?_bind_eq_some_iff.mp hBits
      exact ⟨algorithm, content, hAlgorithm, hContent, hSequence⟩
    · cases hParts
  · rintro ⟨algorithm, bits, hAlgorithm, hBits, hSequence⟩
    have hFound : (tagged? bitStringTag ⟨bitStringTag, bits⟩).bind bitString? = some key :=
      tagged?_bind_eq_some_iff.mpr ⟨bits, rfl, hBits⟩
    refine Option.bind_eq_some_iff.mpr ⟨_, hSequence, Option.bind_eq_some_iff.mpr ?_⟩
    exact ⟨_, hAlgorithm, Option.bind_eq_some_iff.mpr ⟨key, hFound, rfl⟩⟩

/-- The element of a key: the identifier of its algorithm, the parameter if there is one, and
its bits. -/
def keyElement (identifier : Bytes) (parameter : Option Element) (bits : Bytes) : Element :=
  .sequence [.sequence (⟨identifierTag, identifier⟩ :: parameter.toList), ⟨bitStringTag, bits⟩]

/-- The element of a key **can be written** when its parts are not too long. -/
theorem writable_keyElement {identifier bits : Bytes} {parameter : Option Element}
    (hIdentifier : identifier.length ≤ 2 ^ 24) (hBits : bits.length ≤ 2 ^ 24)
    (hParameter : ∀ e ∈ parameter, e.content.length ≤ 2 ^ 24) :
    (keyElement identifier parameter bits).Writable := by
  have hMax : maxLength = 2 ^ 28 - 1 := rfl
  have hFirst : (Element.mk identifierTag identifier).write.length ≤ 2 ^ 24 + 6 :=
    (Element.length_write_le (by dsimp only; omega)).trans (by dsimp only; omega)
  have hLast : (Element.mk bitStringTag bits).write.length ≤ 2 ^ 24 + 6 :=
    (Element.length_write_le (by dsimp only; omega)).trans (by dsimp only; omega)
  have hOptional : (parameter.toList.flatMap Element.write).length ≤ 2 ^ 24 + 6 := by
    cases parameter with
    | none => exact Nat.zero_le _
    | some e =>
        have hContent := hParameter e rfl
        have hWrite : e.write.length ≤ e.content.length + 6 :=
          Element.length_write_le (by omega)
        rw [Option.toList_some, List.flatMap_singleton]
        omega
  have hAlgorithm : (Element.sequence
      (⟨identifierTag, identifier⟩ :: parameter.toList)).content.length ≤ 2 ^ 25 + 12 := by
    rw [Element.sequence, List.flatMap_cons, List.length_append]
    omega
  refine ⟨rfl, ?_⟩
  have hSequence := Element.length_write_le (hAlgorithm.trans (by omega))
  rw [keyElement, Element.sequence, List.flatMap_cons, List.flatMap_singleton, List.length_append]
  omega

/-- **The strings that describe a key**: the element of the key, written. -/
theorem keyInfo?_eq_some_iff {info : KeyInfo} :
    keyInfo? b = some info ↔
      ∃ identifier bits, identifier? identifier = some info.algorithm.id ∧
        bitString? bits = some info.key ∧
        (∀ e ∈ info.algorithm.parameter, isTag e.tag = true) ∧
        (keyElement identifier info.algorithm.parameter bits).Writable ∧
          b = (keyElement identifier info.algorithm.parameter bits).write := by
  rw [keyInfo?, Option.bind_eq_some_iff]
  constructor
  · rintro ⟨e, hElement, hInfo⟩
    obtain ⟨hWritable, rfl⟩ := element?_eq_some_iff.mp hElement
    obtain ⟨algorithm, bits, hAlgorithm, hBits, hSequence⟩ := elementKeyInfo?_eq_some_iff.mp hInfo
    obtain ⟨identifier, hIdentifier, hParts⟩ := algorithm?_eq_some_iff.mp hAlgorithm
    obtain ⟨-, rfl⟩ := sequence?_eq_some_iff.mp hSequence
    obtain ⟨hAll, rfl⟩ := sequence?_eq_some_iff.mp hParts
    refine ⟨identifier, bits, hIdentifier, hBits, fun e he => ?_, hWritable, rfl⟩
    exact (hAll e (List.mem_cons_of_mem _ (Option.mem_toList.mpr he))).isTag
  · rintro ⟨identifier, bits, hIdentifier, hBits, hTags, hWritable, rfl⟩
    refine ⟨_, element?_eq_some_iff.mpr ⟨hWritable, rfl⟩, elementKeyInfo?_eq_some_iff.mpr ?_⟩
    -- The tags inside are known but for that of the parameter.
    have hAlgorithm : (Element.sequence
        (⟨identifierTag, identifier⟩ :: info.algorithm.parameter.toList)).Writable :=
      hWritable.of_mem_sequence List.mem_cons_self rfl
    have hKey : Element.Writable ⟨bitStringTag, bits⟩ :=
      hWritable.of_mem_sequence (List.mem_cons_of_mem _ List.mem_cons_self) rfl
    have hParts : ∀ e ∈ Element.mk identifierTag identifier :: info.algorithm.parameter.toList,
        e.Writable := by
      intro e he
      refine hAlgorithm.of_mem_sequence he ?_
      rcases List.mem_cons.mp he with rfl | hParameter
      · rfl
      · exact hTags e (Option.mem_toList.mp hParameter)
    refine ⟨_, bits, algorithm?_eq_some_iff.mpr ?_, hBits, sequence?_eq_some_iff.mpr ⟨?_, rfl⟩⟩
    · exact ⟨identifier, hIdentifier, sequence?_eq_some_iff.mpr ⟨hParts, rfl⟩⟩
    · exact List.forall_mem_cons.mpr ⟨hAlgorithm, List.forall_mem_singleton.mpr hKey⟩

end RemoteAttestation.Der
