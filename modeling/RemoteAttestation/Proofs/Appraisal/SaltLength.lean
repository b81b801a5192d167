import RemoteAttestation.Appraisal.Signing
import RemoteAttestation.Proofs.Rsa.SaltedEncoding

/-!
# The Salts That Are Tried

A signature with a salt is checked with a length of the salt, and the length has to be right.
Two lengths are tried: one that is computed from the size of the modulus (`Pss.maximalSalt`),
meant to be the longest that a signer can take, and that of the digest.

How long a salt can be is said by the encoded message (`Pss.saltRoom`): it holds the digest,
two octets and the salt. The encoded message has one bit less than the modulus, and for most
sizes this makes no difference to the octets. It does when the modulus has one bit more than a
whole number of octets. Then the encoded message is an octet shorter than the modulus, the
length that is tried first is one that no signature has, and of the signatures with the longest
salt only those are accepted whose salt happens to be as long as the digest.

## Main results

* `Pss.maximalSalt_eq`: the length that is tried first, and what there is room for.
* `AttestationKey.check_rsapss_eq_ok_iff`: which signatures are accepted, by their salts.
* `AttestationKey.check_longest_salt`: when those with the longest salt are.
-/

namespace RemoteAttestation

open Arithmetic

namespace Pss

variable {key : RsaKey} {hash : HashAlgorithm} {digest salt octets : Bytes}

/-- The length of the longest salt that **there is room for** in the encoded message. -/
def saltRoom (key : RsaKey) (hash : HashAlgorithm) : Nat :=
  encodedSize key - (hash.size + 2)

/-- A salt has an encoding when it is **not longer** than there is room for. -/
theorem isSome_encoding_iff_le_saltRoom (hRoom : hash.size + 2 ≤ encodedSize key) :
    (encoding hash digest salt (bitLength key.modulus - 1)).isSome ↔
      salt.length ≤ saltRoom key hash := by
  rw [isSome_encoding_iff, ← encodedSize, saltRoom]
  omega

/-- The length that is tried first is the longest that there is room for, and **one more** when
the modulus has one bit more than a whole number of octets. -/
theorem maximalSalt_eq (hRoom : hash.size + 2 ≤ encodedSize key) :
    maximalSalt key hash =
      saltRoom key hash + if bitLength key.modulus % 8 = 1 then 1 else 0 := by
  rw [maximalSalt, saltRoom, size_eq]
  omega

/-- A length without room **accepts nothing**. -/
theorem verify_eq_false_of_lt {saltSize : Nat} (hRoom : hash.size + 2 ≤ encodedSize key)
    (hDigest : digest.length = hash.size) (h : saltRoom key hash < saltSize) :
    verify key hash saltSize digest octets = false := by
  refine Bool.eq_false_iff.mpr fun hVerify => ?_
  obtain ⟨-, salt, rfl, hEncoding⟩ := (verify_eq_true_iff hDigest).mp hVerify
  have hShort := (isSome_encoding_iff_le_saltRoom hRoom).mp (Option.isSome_of_eq_some hEncoding)
  omega

/-- No signature has a salt that there is no room for. -/
theorem Signs.length_salt_le (h : Signs key hash digest salt octets)
    (hRoom : hash.size + 2 ≤ encodedSize key) : salt.length ≤ saltRoom key hash := by
  obtain ⟨message, hEncoding, -⟩ := h.opens
  exact (isSome_encoding_iff_le_saltRoom hRoom).mp (Option.isSome_of_eq_some hEncoding)

end Pss

namespace AttestationKey

open Pss

variable {key : RsaKey} {hash : HashAlgorithm} {hashAlgorithm : Algorithm}
  {message salt octets : Bytes}

/-- **Which signatures are accepted**: those whose salt has one of the two lengths that are
tried. -/
theorem check_rsapss_eq_ok_iff (hHash : hashAlgorithm.hash? = some hash)
    (h : Signs key hash (hash.digest message) salt octets) :
    check (rsa key) ⟨.rsapss, hashAlgorithm, .rsa octets⟩ message = .ok () ↔
      salt.length = maximalSalt key hash ∨ salt.length = hash.size := by
  have hDigest : (hash.digest message).length = hash.size := HashAlgorithm.length_digest _ _
  have hFirst : Pss.verify key hash (maximalSalt key hash) (hash.digest message) octets = true ↔
      maximalSalt key hash = salt.length := h.verify_eq_true_iff hDigest
  have hSecond : Pss.verify key hash hash.size (hash.digest message) octets = true ↔
      hash.size = salt.length := h.verify_eq_true_iff hDigest
  have hTried : check (rsa key) ⟨.rsapss, hashAlgorithm, .rsa octets⟩ message = .ok () ↔
      Pss.verify key hash (maximalSalt key hash) (hash.digest message) octets = true ∨
        Pss.verify key hash hash.size (hash.digest message) octets = true := by
    simp only [check, hHash, checkString, ← Bool.or_eq_true]
    split
    · rename_i hAccepted
      exact iff_of_true rfl hAccepted
    · rename_i hRefused
      exact iff_of_false nofun hRefused
  rw [hTried, hFirst, hSecond, eq_comm, @eq_comm _ hash.size]

/-- **When the longest salt is accepted**: when the length that is tried first is the longest
that there is room for, which it is but for moduli with one bit more than a whole number of
octets. For these it is one too many, no string at all is accepted with it, and signatures are
accepted only if their salt is as long as the digest. -/
theorem check_longest_salt (hHash : hashAlgorithm.hash? = some hash)
    (hRoom : hash.size + 2 ≤ encodedSize key) :
    (∀ digest salt : Bytes, (encoding hash digest salt (bitLength key.modulus - 1)).isSome ↔
      salt.length ≤ saltRoom key hash) ∧
    (maximalSalt key hash = saltRoom key hash ↔ bitLength key.modulus % 8 ≠ 1) ∧
    (bitLength key.modulus % 8 = 1 → maximalSalt key hash = saltRoom key hash + 1 ∧
      ∀ message octets : Bytes,
        Pss.verify key hash (maximalSalt key hash) (hash.digest message) octets = false) ∧
    (∀ message salt octets : Bytes, Signs key hash (hash.digest message) salt octets →
      (check (rsa key) ⟨.rsapss, hashAlgorithm, .rsa octets⟩ message = .ok () ↔
        salt.length = saltRoom key hash ∧ bitLength key.modulus % 8 ≠ 1 ∨
          salt.length = hash.size)) := by
  have hMaximal := maximalSalt_eq hRoom
  refine ⟨fun digest salt => isSome_encoding_iff_le_saltRoom hRoom, ?_, ?_, ?_⟩
  · rw [hMaximal]
    split <;> omega
  · intro hBits
    rw [if_pos hBits] at hMaximal
    have hLonger : saltRoom key hash < maximalSalt key hash := by omega
    exact ⟨hMaximal, fun message octets =>
      verify_eq_false_of_lt hRoom (HashAlgorithm.length_digest _ _) hLonger⟩
  · intro message salt octets hSigns
    have hLe := hSigns.length_salt_le hRoom
    rw [check_rsapss_eq_ok_iff hHash hSigns, hMaximal]
    split <;> omega

end AttestationKey

/-! ### A modulus with one bit more than a whole number of octets -/

namespace LongestSalt

open Pss

/-- A string of 129 octets: the first of them, and four numbers in 32 octets each. -/
def string (first : UInt8) (rest : List Nat) : Bytes :=
  first :: rest.flatMap (Bytes.ofNat 32)

/-- A key with a modulus of 1025 bits, in 129 octets. -/
def key : RsaKey where
  modulus := Bytes.value <| string 1
    [0x81274e2ffe431515ee0d668d589d701a9fec2bd21916f964f09d58fac4874cad,
     0xddaec5b53318dbb65a663dd273eb6579d6033ce3fa728043fa12f88810a878ee,
     0xbf000bb127a3d36ea3e85ce4eb1597e51b76dbfd0011bf8d74e739c8a8d55366,
     0xc46137a50245dcd6f67a7df06ee0f87afdef8cce6ffab46728784134c8b5389f]
  exponent := 65537
  modulus_bits := by decide +kernel
  modulus_odd := by decide +kernel
  exponent_lt := by decide +kernel
  exponent_odd := by decide
  two_le_exponent := by decide
  exponent_bits := by decide

/-- A message of one octet. -/
def message : Bytes :=
  [0]

/-- A salt of ninety-four octets: with a digest of SHA-256 and two octets, these are the 128
octets of an encoded message. -/
def salt : Bytes :=
  (List.range 94).map UInt8.ofNat

/-- The signature over the message with this salt. -/
def octets : Bytes :=
  string 1
    [0x73b718562ab3274a0978483e6a59c030a1d12fbda2c7cbf3fb7dbac2f19c3294,
     0x9220924ed44b2402b6be6e6decba30bcdf9258d64f4b357855b1572fee51bb65,
     0xcac36170be59bda0aecff7b5d8ce29c7271b26f22b5e30a1704c57a16fb27741,
     0xeafcf94bde40d9d5bc2841961ec5b710aac9c25320999b21d0e0a4628dc964a7]

/-- The octets are a signature of the message with the salt. -/
theorem signs : Signs key .sha256 (HashAlgorithm.sha256.digest message) salt octets where
  length := by decide +kernel
  value_lt := by decide +kernel
  opens := by
    refine ⟨Bytes.ofNat 128 (key.apply octets.value), ?_, ?_⟩
    · decide +kernel
    · decide +kernel

/-- The modulus has room for a digest and the marks around it. -/
theorem room : HashAlgorithm.sha256.size + 2 ≤ encodedSize key := by
  decide +kernel

/-- The salt takes all the room that there is. -/
theorem length_salt : salt.length = saltRoom key .sha256 := by
  decide +kernel

end LongestSalt

open LongestSalt in
/-- With this key, the length that is tried first is one too many, and the signature with the
longest salt is refused. -/
theorem AttestationKey.check_longest_salt_of_one_bit_more :
    Pss.maximalSalt key .sha256 = 95 ∧ Pss.saltRoom key .sha256 = 94 ∧
      Pss.Signs key .sha256 (HashAlgorithm.sha256.digest message) salt octets ∧
        check (.rsa key) ⟨.rsapss, .sha256, .rsa octets⟩ message ≠ .ok () := by
  have hBits : Arithmetic.bitLength key.modulus % 8 = 1 := by decide +kernel
  have hSize : salt.length ≠ HashAlgorithm.sha256.size := by decide
  have hRoom : Pss.saltRoom key .sha256 = 94 := length_salt.symm
  have hHash : Algorithm.sha256.hash? = some .sha256 := rfl
  obtain ⟨-, -, hFirst, hAccepted⟩ := check_longest_salt hHash room
  obtain ⟨hMaximal, -⟩ := hFirst hBits
  refine ⟨hMaximal.trans (congrArg (· + 1) hRoom), hRoom, signs, fun hCheck => ?_⟩
  rcases (hAccepted message salt octets signs).mp hCheck with ⟨-, hOther⟩ | hOther
  · exact hOther hBits
  · exact hSize hOther

open LongestSalt in
/-- The longest salt is **not always tried**, and not always accepted. -/
theorem AttestationKey.check_not_longest_salt :
    (¬ ∀ (key : RsaKey) (hash : HashAlgorithm), hash.size + 2 ≤ Pss.encodedSize key →
      Pss.maximalSalt key hash = Pss.saltRoom key hash) ∧
    ¬ ∀ (key : RsaKey) (message salt octets : Bytes),
      HashAlgorithm.sha256.size + 2 ≤ Pss.encodedSize key →
      Pss.Signs key .sha256 (HashAlgorithm.sha256.digest message) salt octets →
        salt.length = Pss.saltRoom key .sha256 →
          check (.rsa key) ⟨.rsapss, .sha256, .rsa octets⟩ message = .ok () := by
  refine ⟨fun h => ?_, fun h => ?_⟩
  · exact absurd (h key .sha256 room) (by decide +kernel)
  · have hAccepted := h key message salt octets room signs length_salt
    have hSalt := (check_rsapss_eq_ok_iff rfl signs).mp hAccepted
    exact absurd hSalt (by decide +kernel)

end RemoteAttestation
