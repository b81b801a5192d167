import RemoteAttestation.Algorithm
import RemoteAttestation.Text.Split
import RemoteAttestation.Wire.Writer

/-!
# Signing Schemes

How a TPM is asked to sign a quote: with the scheme its key is bound to, or with one of three
schemes and a hash. Operators write a scheme as its name, perhaps followed by a colon and the
name of a hash; the hash is SHA-256 unless they say otherwise.

## Main definitions

* `Scheme`: the schemes.
* `Scheme.parse`: the scheme that an operator writes.
* `Scheme.write`: the wire form of a scheme.
-/

namespace RemoteAttestation

/-- How a quote is to be signed. -/
inductive Scheme where
  /-- As the key is bound to sign. -/
  | null
  /-- RSA with PKCS #1 padding. -/
  | rsassa (hash : Algorithm)
  /-- RSA with a salt. -/
  | rsapss (hash : Algorithm)
  /-- ECDSA. -/
  | ecdsa (hash : Algorithm)
  deriving Repr, DecidableEq

/-- Why a text is not a scheme. -/
inductive SchemeFault where
  /-- A word names no algorithm. -/
  | unknown (fault : UnknownAlgorithm)
  /-- The word after the colon names an algorithm that is not a hash. -/
  | notAHash (algorithm : Algorithm)
  /-- The first word names an algorithm that does not sign. -/
  | notAScheme (algorithm : Algorithm)
  deriving Repr, DecidableEq

/-- The wording of a fault. -/
def SchemeFault.message : SchemeFault → String
  | unknown fault => fault.message
  | notAHash algorithm => s!"{algorithm.name} is not a hash algorithm"
  | notAScheme algorithm => s!"{algorithm.name} is not a signing scheme"

namespace Scheme

/-- The scheme of an algorithm with a hash. The null algorithm has no use for the hash. -/
def ofAlgorithm (hash : Algorithm) : Algorithm → Except SchemeFault Scheme
  | .null => .ok null
  | .rsassa => .ok (rsassa hash)
  | .rsapss => .ok (rsapss hash)
  | .ecdsa => .ok (ecdsa hash)
  | other => .error (.notAScheme other)

/-- The **scheme** that an operator writes. The hash is judged before the scheme. -/
def parse (text : String) : Except SchemeFault Scheme := do
  let (word, hash) ← match Text.splitFirst? ':' text.toList with
    | some (word, hashWord) =>
      let hash ← (Algorithm.ofName (String.ofList hashWord)).mapError .unknown
      pure (String.ofList word, hash)
    | none => pure (text, Algorithm.sha256)
  if !hash.isHash then throw (.notAHash hash)
  ofAlgorithm hash (← (Algorithm.ofName word).mapError .unknown)

/-- The **wire form** of a scheme: its identifier and that of its hash. -/
def write : Scheme → Bytes
  | null => Wire.u16 Algorithm.null.id
  | rsassa hash => Wire.u16 Algorithm.rsassa.id ++ Wire.u16 hash.id
  | rsapss hash => Wire.u16 Algorithm.rsapss.id ++ Wire.u16 hash.id
  | ecdsa hash => Wire.u16 Algorithm.ecdsa.id ++ Wire.u16 hash.id

/-- The form in which notices name an algorithm. -/
def noticeName : Algorithm → String
  | .rsa => "Rsa"
  | .sha1 => "Sha1"
  | .hmac => "Hmac"
  | .sha256 => "Sha256"
  | .sha384 => "Sha384"
  | .sha512 => "Sha512"
  | .null => "Null"
  | .rsassa => "RsaSsa"
  | .rsapss => "RsaPss"
  | .ecdsa => "EcDsa"
  | .ecc => "Ecc"

/-- The form in which notices show a scheme. -/
def noticeForm : Scheme → String
  | null => noticeName .null
  | rsassa hash => s!"{noticeName .rsassa}({noticeName hash})"
  | rsapss hash => s!"{noticeName .rsapss}({noticeName hash})"
  | ecdsa hash => s!"{noticeName .ecdsa}({noticeName hash})"

end Scheme

end RemoteAttestation
