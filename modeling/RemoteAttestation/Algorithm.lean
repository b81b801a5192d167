import RemoteAttestation.Bytes.Basic

/-!
# Algorithm Identifiers

A TPM names the algorithms it uses by sixteen-bit identifiers. Operators name them by words,
in either case and with or without hyphens. Four of the algorithms are hashes; these own the
PCR banks and digest the messages that are signed.

## Main definitions

* `HashAlgorithm`: the four hashes, with `HashAlgorithm.size`, the length of a digest.
* `Algorithm`: the identifiers in use, with `Algorithm.id`, `Algorithm.ofId?`, `Algorithm.name`
  and `Algorithm.ofName`.
* `Algorithm.hash?`: the hash that an identifier stands for.
-/

namespace RemoteAttestation

/-- The hash algorithms of PCR banks and signatures. -/
inductive HashAlgorithm where
  | sha1
  | sha256
  | sha384
  | sha512
  deriving Repr, DecidableEq

/-- The number of octets in a digest. -/
def HashAlgorithm.size : HashAlgorithm → Nat
  | sha1 => 20
  | sha256 => 32
  | sha384 => 48
  | sha512 => 64

/-- An algorithm identifier that this library knows. -/
inductive Algorithm where
  | rsa
  | sha1
  | hmac
  | sha256
  | sha384
  | sha512
  | null
  | rsassa
  | rsapss
  | ecdsa
  | ecc
  deriving Repr, DecidableEq, Inhabited

/-- A word that names no algorithm, in the form it was looked up. -/
structure UnknownAlgorithm where
  /-- The word in lower case, without hyphens. -/
  word : String
  deriving Repr, DecidableEq

namespace UnknownAlgorithm

/-- What comes before the word in the wording of the fault. -/
def label : String := "Unknown TPM algorithm: "

/-- The wording of the fault. -/
def message (fault : UnknownAlgorithm) : String :=
  label ++ fault.word

end UnknownAlgorithm

namespace Algorithm

/-- All known algorithms, by ascending identifier. -/
def all : List Algorithm :=
  [rsa, sha1, hmac, sha256, sha384, sha512, null, rsassa, rsapss, ecdsa, ecc]

/-- The **identifier** of an algorithm. -/
def id : Algorithm → UInt16
  | rsa => 0x0001
  | sha1 => 0x0004
  | hmac => 0x0005
  | sha256 => 0x000B
  | sha384 => 0x000C
  | sha512 => 0x000D
  | null => 0x0010
  | rsassa => 0x0014
  | rsapss => 0x0016
  | ecdsa => 0x0018
  | ecc => 0x0023

/-- The canonical name of an algorithm. -/
def name : Algorithm → String
  | rsa => "rsa"
  | sha1 => "sha1"
  | hmac => "hmac"
  | sha256 => "sha256"
  | sha384 => "sha384"
  | sha512 => "sha512"
  | null => "null"
  | rsassa => "rsassa"
  | rsapss => "rsapss"
  | ecdsa => "ecdsa"
  | ecc => "ecc"

/-- The algorithm with an identifier. -/
def ofId? (id : UInt16) : Option Algorithm :=
  all.find? (·.id == id)

/-- An algorithm is the one that **its identifier** names. -/
theorem ofId?_id (a : Algorithm) : ofId? a.id = some a := by
  cases a <;> rfl

/-- The form in which a word is looked up: ASCII letters in lower case, hyphens left out. -/
def lookupForm (word : String) : String :=
  String.ofList ((word.toList.map Char.toLower).filter (· != '-'))

/-- The algorithm that a word names. -/
def ofName (word : String) : Except UnknownAlgorithm Algorithm :=
  match all.find? (·.name == lookupForm word) with
  | some algorithm => .ok algorithm
  | none => .error ⟨lookupForm word⟩

/-- The **hash** that an identifier stands for, if it stands for one. -/
def hash? : Algorithm → Option HashAlgorithm
  | sha1 => some .sha1
  | sha256 => some .sha256
  | sha384 => some .sha384
  | sha512 => some .sha512
  | _ => none

/-- Whether the algorithm is a hash. -/
def isHash (a : Algorithm) : Bool :=
  a.hash?.isSome

/-- The number of octets in a digest, for a hash. -/
def digestSize? (a : Algorithm) : Option Nat :=
  a.hash?.map HashAlgorithm.size

end Algorithm

end RemoteAttestation
