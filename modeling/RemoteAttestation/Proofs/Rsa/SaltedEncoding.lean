import RemoteAttestation.Proofs.Bytes.Width
import RemoteAttestation.Rsa.Pss

/-!
# The Encoded Messages of Signatures With a Salt

The check of a signature with a salt takes an encoded message apart and looks at each part.
Here the message is put together (`Pss.encoding`): the salt behind its padding, under a mask
that comes from the digest, then the digest and the last octet. The two belong together. A
message passes the check for a length of the salt just when it is the encoding with a salt of
that length, and it is the encoding with one salt only.

The one thing to see is that the mask comes off as it went on. The upper bits of the first
octet are cleared after masking, so the octets that are masked twice come back up to these
bits, and in the padding they are zeros anyway.

## Main results

* `Pss.isSome_encoding_iff`: for which salts there is room.
* `Pss.check_eq_true_iff`: a message passes the check when it is an encoding.
* `Pss.encoding_salt_unique`: a message holds one salt only.
* `Pss.Signs.verify_eq_true_iff`: a signature is accepted with the length of its salt only.
-/

namespace RemoteAttestation

open Arithmetic

/-! ### Masks -/

namespace Bytes

/-- Octets are masked as far as both go. -/
theorem length_xor (a mask : Bytes) : (xor a mask).length = min a.length mask.length :=
  List.length_zipWith

/-- What is masked twice **comes back**. -/
theorem xor_xor_cancel {a mask : Bytes} (h : a.length ≤ mask.length) :
    xor (xor a mask) mask = a := by
  induction a generalizing mask with
  | nil => rfl
  | cons x a ih =>
      cases mask with
      | nil => simp at h
      | cons y mask =>
          have hRest : a.length ≤ mask.length := by simpa using h
          have hHead : x ^^^ y ^^^ y = x := by
            rw [UInt8.xor_assoc, UInt8.xor_self, UInt8.xor_zero]
          have hTail := ih hRest
          simp only [xor, List.zipWith_cons_cons] at hTail ⊢
          rw [hHead, hTail]

end Bytes

namespace Pss

/-- Clearing bits takes no octet away. -/
@[simp] theorem length_clearTop (spare : Nat) (b : Bytes) :
    (clearTop spare b).length = b.length := by
  cases b with
  | nil => rfl
  | cons first rest => rfl

/-- A mask is as long as it is asked for. -/
theorem length_mask (hash : HashAlgorithm) (seed : Bytes) (count : Nat) :
    (mask hash seed count).length = count := by
  have hPos : 0 < hash.size := by cases hash <;> decide
  -- So many digests are enough: they are the quotient, rounded up.
  have hRounds : count ≤ (count + hash.size - 1) / hash.size * hash.size := by
    have hDiv := Nat.div_add_mod (count + hash.size - 1) hash.size
    have hMod := Nat.mod_lt (count + hash.size - 1) hPos
    rw [Nat.mul_comm] at hDiv
    omega
  simp only [mask, List.length_take, List.length_flatMap, HashAlgorithm.length_digest,
    List.map_const', List.sum_replicate_nat, List.length_range]
  exact Nat.min_eq_left hRounds

/-- The octet that is left of the first one. -/
theorem toNat_cleared (octet : UInt8) (bits : Nat) :
    (UInt8.ofNat (octet.toNat % 1 <<< bits)).toNat = octet.toNat % 2 ^ bits := by
  have hLt : octet.toNat % 2 ^ bits < 256 := Nat.lt_of_le_of_lt (Nat.mod_le _ _) octet.toNat_lt
  rw [Nat.one_shiftLeft, UInt8.toNat_ofNat_of_lt' hLt]

/-- Bits that are cleared stay so. -/
theorem clearTop_clearTop (spare : Nat) (b : Bytes) :
    clearTop spare (clearTop spare b) = clearTop spare b := by
  cases b with
  | nil => rfl
  | cons first rest =>
      have hFirst : (UInt8.ofNat (first.toNat % 1 <<< (8 - spare))).toNat % 2 ^ (8 - spare) =
          first.toNat % 2 ^ (8 - spare) := by
        rw [toNat_cleared, Nat.mod_mod]
      rw [clearTop, clearTop, List.cons.injEq, ← UInt8.toNat_inj, toNat_cleared, hFirst,
        toNat_cleared]
      exact ⟨rfl, rfl⟩

/-- Bits are cleared before masking or behind it, to the same end. -/
theorem clearTop_xor (spare : Nat) (a b : Bytes) :
    clearTop spare (Bytes.xor a b) = Bytes.xor (clearTop spare a) (clearTop spare b) := by
  cases a with
  | nil => rfl
  | cons x a =>
      cases b with
      | nil => rfl
      | cons y b =>
          simp only [Bytes.xor, List.zipWith_cons_cons, clearTop, List.cons.injEq, and_true]
          rw [← UInt8.toNat_inj, toNat_cleared, UInt8.toNat_xor, UInt8.toNat_xor, toNat_cleared,
            toNat_cleared, Nat.xor_mod_two_pow]

/-- The mask **comes off** as it went on, up to the upper bits of the first octet. -/
theorem clearTop_unmask {a mask : Bytes} (h : a.length ≤ mask.length) (spare : Nat) :
    clearTop spare (Bytes.xor (clearTop spare (Bytes.xor a mask)) mask) = clearTop spare a := by
  rw [clearTop_xor, clearTop_clearTop, ← clearTop_xor, Bytes.xor_xor_cancel h]

/-- Octets are others under a mask just when they have no upper bits and **give them back**
under the same mask. -/
theorem masked_eq_iff {a b mask : Bytes} {spare : Nat} (ha : a.length ≤ mask.length)
    (hb : b.length ≤ mask.length) (hClear : clearTop spare b = b) :
    a = clearTop spare (Bytes.xor b mask) ↔
      clearTop spare a = a ∧ clearTop spare (Bytes.xor a mask) = b := by
  constructor
  · rintro rfl
    refine ⟨clearTop_clearTop _ _, ?_⟩
    rw [clearTop_unmask hb, hClear]
  · rintro ⟨hTop, rfl⟩
    rw [clearTop_unmask ha, hTop]

/-! ### Padding -/

/-- The salt **behind its padding**, in a number of octets: zeros, a one, and the salt. -/
def block (size : Nat) (salt : Bytes) : Bytes :=
  List.replicate (size - salt.length - 1) 0 ++ 1 :: salt

/-- A block with room for its salt has its size. -/
theorem length_block {size : Nat} {salt : Bytes} (h : salt.length < size) :
    (block size salt).length = size := by
  rw [block, List.length_append, List.length_replicate, List.length_cons]
  omega

/-- The padding leaves the upper bits free. -/
theorem clearTop_block {spare : Nat} (h : spare ≤ 7) (size : Nat) (salt : Bytes) :
    clearTop spare (block size salt) = block size salt := by
  have hOne : (1 : UInt8).toNat % 2 ^ (8 - spare) = 1 := by
    have hPow : 2 ^ 1 ≤ 2 ^ (8 - spare) := Nat.pow_le_pow_right (by decide) (by omega)
    have hLt : (1 : UInt8).toNat < 2 ^ (8 - spare) := hPow
    rw [Nat.mod_eq_of_lt hLt]
    rfl
  rw [block]
  cases size - salt.length - 1 with
  | zero =>
      rw [List.replicate_zero, List.nil_append, clearTop, List.cons.injEq, ← UInt8.toNat_inj,
        toNat_cleared]
      exact ⟨hOne, rfl⟩
  | succ zeros =>
      rw [List.replicate_succ, List.cons_append, clearTop, List.cons.injEq, ← UInt8.toNat_inj,
        toNat_cleared]
      exact ⟨Nat.zero_mod _, rfl⟩

/-- In a block the mark and the salt are significant, and all in front is zeros. -/
theorem significant_block (size : Nat) (salt : Bytes) :
    (block size salt).significant = 1 :: salt := by
  rw [block]
  generalize size - salt.length - 1 = zeros
  induction zeros with
  | zero => rfl
  | succ zeros ih => exact ih

/-- Where the padding ends is seen from the block, so there is **one salt** in it. -/
theorem block_inj {size : Nat} {salt salt' : Bytes} (h : block size salt = block size salt') :
    salt = salt' := by
  have hSignificant := congrArg Bytes.significant h
  rw [significant_block, significant_block] at hSignificant
  exact (List.cons.inj hSignificant).2

/-- A block is **padding and salt** of given lengths. -/
theorem padding_eq_iff {b salt : Bytes} {saltSize : Nat} (h : saltSize < b.length) :
    b.take (b.length - saltSize) =
        List.replicate ((b.take (b.length - saltSize)).length - 1) 0 ++ [1] ∧
      b.drop (b.length - saltSize) = salt ↔
    salt.length = saltSize ∧ b = block b.length salt := by
  have hTake : (b.take (b.length - saltSize)).length = b.length - saltSize :=
    List.length_take_of_le (Nat.sub_le _ _)
  rw [hTake]
  constructor
  · rintro ⟨hPadding, hSalt⟩
    have hLength : salt.length = saltSize := by
      rw [← hSalt, List.length_drop]
      omega
    refine ⟨hLength, ?_⟩
    calc b = b.take (b.length - saltSize) ++ b.drop (b.length - saltSize) :=
          (List.take_append_drop _ _).symm
      _ = List.replicate (b.length - saltSize - 1) 0 ++ [1] ++ salt := by rw [hPadding, hSalt]
      _ = block b.length salt := by rw [block, hLength, List.append_assoc, List.singleton_append]
  · rintro ⟨rfl, hBlock⟩
    generalize b.length = size at h hBlock
    have hFront : (List.replicate (size - salt.length - 1) (0 : UInt8) ++ [1]).length =
        size - salt.length := by
      rw [List.length_append, List.length_replicate, List.length_singleton]
      omega
    have hParts : b = List.replicate (size - salt.length - 1) 0 ++ [1] ++ salt := by
      rw [List.append_assoc, List.singleton_append]
      exact hBlock
    rw [hParts]
    exact ⟨List.take_left' hFront, List.drop_left' hFront⟩

/-! ### Encodings -/

/-- The **encoded message** of `bits` bits for a digest and a salt: the salt behind its
padding, under the mask, then the digest that the mask comes from, and the octet `bc`. A salt
that leaves too little room has none. -/
def encoding (hash : HashAlgorithm) (digest salt : Bytes) (bits : Nat) : Option Bytes :=
  let size := octetsFor bits
  let seed := saltedDigest hash digest salt
  let blockSize := size - hash.size - 1
  if size < hash.size + salt.length + 2 then none
  else
    let masked := clearTop (8 * size - bits)
      (Bytes.xor (block blockSize salt) (mask hash seed blockSize))
    some (masked ++ seed ++ [0xbc])

/-- There is room for a salt when it fits **beside the digest and two octets**. -/
theorem isSome_encoding_iff {hash : HashAlgorithm} {digest salt : Bytes} {bits : Nat} :
    (encoding hash digest salt bits).isSome ↔ hash.size + salt.length + 2 ≤ octetsFor bits := by
  rw [encoding]
  split
  · rename_i hShort
    simpa using hShort
  · rename_i hLong
    simpa using hLong

/-- An encoding is as long as its number of bits needs. -/
theorem length_of_encoding {hash : HashAlgorithm} {digest salt message : Bytes} {bits : Nat}
    (h : encoding hash digest salt bits = some message) : message.length = octetsFor bits := by
  rw [encoding] at h
  split at h
  · cases h
  rename_i hRoom
  have hShort : salt.length < octetsFor bits - hash.size - 1 := by omega
  rw [← Option.some.inj h, List.length_append, List.length_append, length_clearTop,
    Bytes.length_xor, length_block hShort, length_mask, Nat.min_self, saltedDigest,
    HashAlgorithm.length_digest, List.length_singleton]
  omega

/-- The parts of an encoded message **are** the message. -/
theorem split?_eq_some_iff {hash : HashAlgorithm} {message : Bytes} {encoded : Encoded} :
    split? hash message = some encoded ↔
      message = encoded.masked ++ encoded.seed ++ [encoded.trailer] ∧
        encoded.seed.length = hash.size := by
  obtain ⟨masked, seed, trailer⟩ := encoded
  constructor
  · intro h
    rw [split?] at h
    split at h
    · cases h
    rename_i last hLast
    split at h
    · cases h
    rename_i hLong
    obtain ⟨rfl, rfl, rfl⟩ := Encoded.mk.inj (Option.some.inj h)
    have hMessage : message = message.dropLast ++ [last] := by
      obtain ⟨body, rfl⟩ := List.getLast?_eq_some_iff.mp hLast
      rw [List.dropLast_concat]
    refine ⟨?_, ?_⟩
    · rw [List.take_append_drop]
      exact hMessage
    · rw [List.length_drop, List.length_dropLast]
      omega
  · rintro ⟨hMessage, hSeed⟩
    have hLast : message.getLast? = some trailer := by
      rw [hMessage, List.getLast?_concat]
    have hBody : message.dropLast = masked ++ seed := by
      rw [hMessage, List.dropLast_concat]
    have hLength : message.length = masked.length + hash.size + 1 := by
      rw [hMessage, List.length_append, List.length_append, hSeed, List.length_singleton]
    have hMasked : message.length - hash.size - 1 = masked.length := by omega
    have hLong : ¬ message.length < hash.size + 1 := by omega
    simp only [split?, hLast, if_neg hLong, hBody, hMasked, List.take_left, List.drop_left]

/-- Only a message without room for a digest and the last octet has no parts. -/
theorem split?_eq_none_iff {hash : HashAlgorithm} {message : Bytes} :
    split? hash message = none ↔ message.length < hash.size + 1 := by
  rw [split?]
  split
  · rename_i hLast
    rw [List.getLast?_eq_none_iff.mp hLast]
    exact iff_of_true rfl (Nat.succ_pos _)
  · split
    · rename_i hShort
      exact iff_of_true rfl hShort
    · rename_i hLong
      exact iff_of_false nofun hLong

variable {hash : HashAlgorithm} {digest salt message : Bytes} {bits saltSize : Nat}

/-- The parts are as long as the message, but for the digest and the last octet. -/
theorem length_of_split? {encoded : Encoded} (h : split? hash message = some encoded) :
    message.length = encoded.masked.length + hash.size + 1 := by
  obtain ⟨hMessage, hSeed⟩ := split?_eq_some_iff.mp h
  rw [hMessage, List.length_append, List.length_append, hSeed, List.length_singleton]

/-- **What is checked** of the parts of a message: that a salt of the right length stands
behind its padding under the mask, and that the digest is that of the salt. -/
theorem check_eq_true_iff_of_split? {encoded : Encoded}
    (hSplit : split? hash message = some encoded) (hDigest : digest.length = hash.size) :
    check hash digest message bits saltSize = true ↔
      encoded.trailer = 0xbc ∧
      clearTop (8 * message.length - bits) encoded.masked = encoded.masked ∧
      ∃ salt, salt.length = saltSize ∧ saltSize < encoded.masked.length ∧
        clearTop (8 * message.length - bits)
          (Bytes.xor encoded.masked (mask hash encoded.seed encoded.masked.length)) =
            block encoded.masked.length salt ∧
        saltedDigest hash digest salt = encoded.seed := by
  have hLength := length_of_split? hSplit
  have hRoom : hash.size + saltSize + 2 ≤ message.length ↔ saltSize < encoded.masked.length := by
    omega
  simp only [check, hSplit, hDigest, beq_self_eq_true, Bool.true_and, Bool.and_eq_true,
    beq_iff_eq, decide_eq_true_eq, hRoom]
  generalize hBlock : clearTop (8 * message.length - bits)
    (Bytes.xor encoded.masked (mask hash encoded.seed encoded.masked.length)) = b
  have hSize : b.length = encoded.masked.length := by
    rw [← hBlock, length_clearTop, Bytes.length_xor, length_mask, Nat.min_self]
  rw [← hSize]
  constructor
  · rintro ⟨⟨⟨⟨hShort, hTrailer⟩, hClear⟩, hPadding⟩, hSeed⟩
    obtain ⟨hSalt, hEq⟩ := (padding_eq_iff hShort).mp ⟨hPadding, rfl⟩
    exact ⟨hTrailer, hClear, _, hSalt, hShort, hEq, hSeed⟩
  · rintro ⟨hTrailer, hClear, salt, hSalt, hShort, hEq, hSeed⟩
    obtain ⟨hPadding, hDrop⟩ := (padding_eq_iff hShort).mpr ⟨hSalt, hEq⟩
    exact ⟨⟨⟨⟨hShort, hTrailer⟩, hClear⟩, hPadding⟩, hDrop ▸ hSeed⟩

/-- A message is an encoding when its parts are those of one, which is seen **when the mask is
taken off**. -/
theorem encoding_eq_some_iff {encoded : Encoded} (hSplit : split? hash message = some encoded)
    (hMessage : message.length = octetsFor bits) :
    encoding hash digest salt bits = some message ↔
      salt.length < encoded.masked.length ∧ encoded.trailer = 0xbc ∧
      saltedDigest hash digest salt = encoded.seed ∧
      clearTop (8 * message.length - bits) encoded.masked = encoded.masked ∧
      clearTop (8 * message.length - bits)
        (Bytes.xor encoded.masked (mask hash encoded.seed encoded.masked.length)) =
          block encoded.masked.length salt := by
  obtain ⟨hParts, hSeed⟩ := split?_eq_some_iff.mp hSplit
  have hLength := length_of_split? hSplit
  have hBlock : message.length - hash.size - 1 = encoded.masked.length := by omega
  have hSpare : 8 * message.length - bits ≤ 7 := by
    rw [hMessage, octetsFor]
    omega
  have hMask := length_mask hash encoded.seed encoded.masked.length
  have hUnmask (hShort : salt.length < encoded.masked.length) :=
    masked_eq_iff (Nat.le_of_eq hMask.symm) (Nat.le_of_eq ((length_block hShort).trans hMask.symm))
      (clearTop_block hSpare encoded.masked.length salt)
  rw [encoding, ← hMessage]
  simp only [hBlock]
  constructor
  · intro h
    split at h
    · cases h
    rename_i hRoom
    have hShort : salt.length < encoded.masked.length := by omega
    have hEq := hParts.symm.trans (Option.some.inj h).symm
    -- Both ends of the message have known lengths, so the parts are the same one by one.
    obtain ⟨hFront, hTrailer⟩ := List.append_inj' hEq rfl
    obtain ⟨hMasked, hSeedEq⟩ := List.append_inj' hFront (by rw [hSeed]; simp [saltedDigest])
    rw [← hSeedEq] at hMasked
    exact ⟨hShort, (List.cons.inj hTrailer).1, hSeedEq.symm, (hUnmask hShort).mp hMasked⟩
  · rintro ⟨hShort, hTrailer, hSeedEq, hMasked⟩
    have hEq := (hUnmask hShort).mpr hMasked
    rw [if_neg (by omega), hSeedEq, ← hEq, ← hTrailer, ← hParts]

/-- An encoding has parts. -/
theorem exists_split?_of_encoding (h : encoding hash digest salt bits = some message) :
    ∃ encoded, split? hash message = some encoded := by
  have hRoom := isSome_encoding_iff.mp (Option.isSome_of_eq_some h)
  have hLength := length_of_encoding h
  refine Option.ne_none_iff_exists'.mp fun hNone => ?_
  have hShort := split?_eq_none_iff.mp hNone
  omega

/-- **A message passes the check when it is an encoding** with a salt of the right length. -/
theorem check_eq_true_iff (hDigest : digest.length = hash.size)
    (hMessage : message.length = octetsFor bits) :
    check hash digest message bits saltSize = true ↔
      ∃ salt, salt.length = saltSize ∧ encoding hash digest salt bits = some message := by
  constructor
  · intro h
    cases hSplit : split? hash message with
    | none => simp [check, hSplit] at h
    | some encoded =>
        obtain ⟨hTrailer, hClear, salt, rfl, hShort, hBlock, hSeed⟩ :=
          (check_eq_true_iff_of_split? hSplit hDigest).mp h
        exact ⟨salt, rfl, (encoding_eq_some_iff hSplit hMessage).mpr
          ⟨hShort, hTrailer, hSeed, hClear, hBlock⟩⟩
  · rintro ⟨salt, rfl, hEncoding⟩
    obtain ⟨encoded, hSplit⟩ := exists_split?_of_encoding hEncoding
    obtain ⟨hShort, hTrailer, hSeed, hClear, hBlock⟩ :=
      (encoding_eq_some_iff hSplit hMessage).mp hEncoding
    exact (check_eq_true_iff_of_split? hSplit hDigest).mpr
      ⟨hTrailer, hClear, salt, rfl, hShort, hBlock, hSeed⟩

/-- A message is the encoding with **one salt only**. -/
theorem encoding_salt_unique {salt' : Bytes} (h : encoding hash digest salt bits = some message)
    (h' : encoding hash digest salt' bits = some message) : salt = salt' := by
  have hMessage := length_of_encoding h
  obtain ⟨encoded, hSplit⟩ := exists_split?_of_encoding h
  obtain ⟨-, -, -, -, hBlock⟩ := (encoding_eq_some_iff hSplit hMessage).mp h
  obtain ⟨-, -, -, -, hBlock'⟩ := (encoding_eq_some_iff hSplit hMessage).mp h'
  exact block_inj (hBlock.symm.trans hBlock')

/-! ### Signatures -/

/-- The number of octets of an encoded message, which has one bit less than the modulus. -/
def encodedSize (key : RsaKey) : Nat :=
  octetsFor (bitLength key.modulus - 1)

/-- A string **signs** a digest with a salt: it has the size of the modulus, denotes a number
below the modulus, and the public operation makes the encoded message of that number. This is
what a signer with the private key makes. -/
structure Signs (key : RsaKey) (hash : HashAlgorithm) (digest salt octets : Bytes) : Prop where
  /-- The string has the size of the modulus. -/
  length : octets.length = key.size
  /-- It denotes a number below the modulus. -/
  value_lt : octets.value < key.modulus
  /-- The public operation makes the encoded message of it. -/
  opens : ∃ message, encoding hash digest salt (bitLength key.modulus - 1) = some message ∧
    key.apply octets.value = message.value

variable {key : RsaKey} {octets : Bytes}

/-- The size of the modulus is that of the encoded message, and **one more** when the modulus
has one bit more than a whole number of octets. -/
theorem size_eq (key : RsaKey) :
    key.size = encodedSize key + if bitLength key.modulus % 8 = 1 then 1 else 0 := by
  rw [RsaKey.size, octetLength, encodedSize, octetsFor, octetsFor]
  split <;> omega

/-- **What is accepted** with a length of the salt: strings of the size of the modulus that the
public operation makes an encoding of, as far as the encoded message goes. -/
theorem verify_eq_true_iff (hDigest : digest.length = hash.size) :
    verify key hash saltSize digest octets = true ↔
      octets.length = key.size ∧ ∃ salt, salt.length = saltSize ∧
        encoding hash digest salt (bitLength key.modulus - 1) =
          some (Bytes.ofNat (encodedSize key) (key.apply octets.value)) := by
  have hSize : encodedSize key ≤ key.size := by
    rw [size_eq]
    exact Nat.le_add_right _ _
  have hMessage : (key.recover octets).drop (key.size - octetsFor (bitLength key.modulus - 1)) =
      Bytes.ofNat (encodedSize key) (key.apply octets.value) :=
    Bytes.drop_ofNat hSize _
  have hLength : (Bytes.ofNat (encodedSize key) (key.apply octets.value)).length =
      octetsFor (bitLength key.modulus - 1) :=
    Bytes.length_ofNat _ _
  simp only [verify, hMessage, Bool.and_eq_true, beq_iff_eq]
  rw [check_eq_true_iff hDigest hLength]

/-- A signature is accepted with **the length of its salt** and with no other. -/
theorem Signs.verify_eq_true_iff (h : Signs key hash digest salt octets)
    (hDigest : digest.length = hash.size) :
    verify key hash saltSize digest octets = true ↔ saltSize = salt.length := by
  obtain ⟨message, hEncoding, hOpens⟩ := h.opens
  have hMessage : Bytes.ofNat (encodedSize key) (key.apply octets.value) = message := by
    rw [hOpens, encodedSize, ← length_of_encoding hEncoding, Bytes.ofNat_value]
  rw [Pss.verify_eq_true_iff hDigest, hMessage]
  constructor
  · rintro ⟨-, salt', rfl, hEncoding'⟩
    rw [encoding_salt_unique hEncoding' hEncoding]
  · rintro rfl
    exact ⟨h.length, salt, rfl, hEncoding⟩

end Pss

end RemoteAttestation
