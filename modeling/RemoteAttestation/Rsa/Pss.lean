import RemoteAttestation.Hash.Digest
import RemoteAttestation.Rsa.Key

/-!
# RSA Signatures with a Salt

A signature in the probabilistic scheme encodes the digest of the message's digest together
with a random salt, and hides the salt under a mask that is derived from that digest. The
encoded message has one bit less than the modulus. The check takes the length of the salt from
its caller and accepts no other.

## Main definitions

* `Pss.mask`: the mask that belongs to a seed.
* `Pss.Encoded`, `Pss.split?`: the parts of an encoded message.
* `Pss.verify`: whether a string signs a digest with a salt of a given length.
-/

namespace RemoteAttestation.Pss

open Arithmetic

/-- `count` octets derived from `seed`: the digests of the seed with a counter, one after the
other. -/
def mask (hash : HashAlgorithm) (seed : Bytes) (count : Nat) : Bytes :=
  let rounds := (count + hash.size - 1) / hash.size
  ((List.range rounds).flatMap fun i => hash.digest (seed ++ Bytes.ofNat 4 i)).take count

/-- The parts of an encoded message. -/
structure Encoded where
  /-- The padding and the salt, under the mask. -/
  masked : Bytes
  /-- The digest, which is the seed of the mask. -/
  seed : Bytes
  /-- The last octet. -/
  trailer : UInt8
  deriving Repr, DecidableEq

/-- An encoded message by its parts, when it has room for a digest and the trailer. -/
def split? (hash : HashAlgorithm) (message : Bytes) : Option Encoded :=
  match message.getLast? with
  | none => none
  | some trailer =>
    if message.length < hash.size + 1 then none
    else
      let body := message.dropLast
      let maskedSize := message.length - hash.size - 1
      some ⟨body.take maskedSize, body.drop maskedSize, trailer⟩

/-- The octets with the upper `spare` bits of the first one cleared. -/
def clearTop (spare : Nat) : Bytes → Bytes
  | [] => []
  | first :: rest => UInt8.ofNat (first.toNat % 1 <<< (8 - spare)) :: rest

/-- The digest that binds a message's digest to a salt. -/
def saltedDigest (hash : HashAlgorithm) (digest salt : Bytes) : Bytes :=
  hash.digest (List.replicate 8 0 ++ digest ++ salt)

/-- Whether an encoded message of `bits` bits is one of the given digest with a salt of
`saltSize` octets. -/
def check (hash : HashAlgorithm) (digest message : Bytes) (bits saltSize : Nat) : Bool :=
  match split? hash message with
  | none => false
  | some encoded =>
    let spare := 8 * message.length - bits
    let block := clearTop spare
      (Bytes.xor encoded.masked (mask hash encoded.seed encoded.masked.length))
    let padding := block.take (block.length - saltSize)
    let salt := block.drop (block.length - saltSize)
    digest.length == hash.size &&
      decide (hash.size + saltSize + 2 ≤ message.length) &&
      encoded.trailer == 0xbc &&
      clearTop spare encoded.masked == encoded.masked &&
      padding == List.replicate (padding.length - 1) 0 ++ [1] &&
      saltedDigest hash digest salt == encoded.seed

/-- Whether a string **signs** a digest with a salt of `saltSize` octets. The string must have
the size of the modulus; the number it denotes is reduced by the public operation. -/
def verify (key : RsaKey) (hash : HashAlgorithm) (saltSize : Nat) (digest signature : Bytes) :
    Bool :=
  let bits := bitLength key.modulus - 1
  let message := key.recover signature
  signature.length == key.size &&
    check hash digest (message.drop (key.size - octetsFor bits)) bits saltSize

end RemoteAttestation.Pss
