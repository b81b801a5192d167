import RemoteAttestation.Hash.Digest
import RemoteAttestation.Rsa.Key

/-!
# RSA Signatures with PKCS #1 Padding

A signature in this scheme encodes the digest together with the name of its hash, behind a run
of ones that fills the modulus. There is exactly one encoding of a digest for each size, so the
check compares the whole.

## Main definitions

* `Pkcs1.digestInfo`: a digest behind the name of its hash.
* `Pkcs1.encoding`: the encoded message of a digest.
* `Pkcs1.verify`: whether a string signs a digest.
-/

namespace RemoteAttestation.Pkcs1

/-- The DER form of a digest's hash, up to the digest itself. The parameters of the hash are
null. -/
def digestHeader : HashAlgorithm → Bytes
  | .sha1 => [0x30, 0x21, 0x30, 0x09, 0x06, 0x05, 0x2b, 0x0e, 0x03, 0x02, 0x1a, 0x05, 0x00,
      0x04, 0x14]
  | .sha256 => [0x30, 0x31, 0x30, 0x0d, 0x06, 0x09, 0x60, 0x86, 0x48, 0x01, 0x65, 0x03, 0x04,
      0x02, 0x01, 0x05, 0x00, 0x04, 0x20]
  | .sha384 => [0x30, 0x41, 0x30, 0x0d, 0x06, 0x09, 0x60, 0x86, 0x48, 0x01, 0x65, 0x03, 0x04,
      0x02, 0x02, 0x05, 0x00, 0x04, 0x30]
  | .sha512 => [0x30, 0x51, 0x30, 0x0d, 0x06, 0x09, 0x60, 0x86, 0x48, 0x01, 0x65, 0x03, 0x04,
      0x02, 0x03, 0x05, 0x00, 0x04, 0x40]

/-- A digest behind the name of its hash. -/
def digestInfo (hash : HashAlgorithm) (digest : Bytes) : Bytes :=
  digestHeader hash ++ digest

/-- The **encoded message** of `size` octets: zero, one, at least eight times 255, zero, and
the digest with its hash. A size that leaves less room has none. -/
def encoding (hash : HashAlgorithm) (digest : Bytes) (size : Nat) : Option Bytes :=
  let info := digestInfo hash digest
  if size < info.length + 11 then none
  else some (0x00 :: 0x01 :: List.replicate (size - info.length - 3) 0xff ++ 0x00 :: info)

/-- Whether a string **signs** a digest. It must have the size of the modulus and denote a
number below it. -/
def verify (key : RsaKey) (hash : HashAlgorithm) (digest signature : Bytes) : Bool :=
  signature.length == key.size && decide (signature.value < key.modulus) &&
    encoding hash digest key.size == some (key.recover signature)

end RemoteAttestation.Pkcs1
