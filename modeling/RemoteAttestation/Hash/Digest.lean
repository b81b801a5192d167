import RemoteAttestation.Algorithm
import RemoteAttestation.Hash.Sha1
import RemoteAttestation.Hash.Sha2

/-!
# Digests by Algorithm

The hash functions behind the algorithm identifiers. An identifier that is not a hash digests
nothing.

## Main definitions

* `HashAlgorithm.digest`: the digest of a message.
* `Algorithm.digest?`: the digest of a message, if the algorithm is a hash.
-/

namespace RemoteAttestation

namespace HashAlgorithm

/-- The **digest** of a message. -/
def digest : HashAlgorithm → Bytes → Bytes
  | sha1 => Sha1.digest
  | sha256 => Sha2.digest Sha2.sha256
  | sha384 => Sha2.digest Sha2.sha384
  | sha512 => Sha2.digest Sha2.sha512

/-- A digest has the size of its algorithm, whatever is digested. -/
@[simp] theorem length_digest (h : HashAlgorithm) (message : Bytes) :
    (h.digest message).length = h.size := by
  cases h
  · exact Sha1.length_digest message
  all_goals exact Sha2.length_digest _ (by decide) message

end HashAlgorithm

/-- The digest of a message, if the algorithm is a hash. -/
def Algorithm.digest? (algorithm : Algorithm) (message : Bytes) : Option Bytes :=
  algorithm.hash?.map (·.digest message)

end RemoteAttestation
