import RemoteAttestation.Algorithm
import RemoteAttestation.Bytes.Hex
import RemoteAttestation.Wire.Reader
import RemoteAttestation.Wire.Writer

/-!
# Signatures

A TPM's signature names its scheme and its hash, and then holds one string for RSA or the two
integers of ECDSA. Reading looks at the form only; whether the signature is right is another
matter. A signature of the null scheme is none at all and gets a fault of its own.

## Main definitions

* `Signature`, `SignatureData`: the parts of a signature.
* `Signature.read`, `Signature.decode`, `Signature.write`: from and to the wire form.
* `Signature.octets`: the signature proper.
-/

namespace RemoteAttestation

/-- What a scheme makes of a digest. -/
inductive SignatureData where
  /-- The string that RSA makes. -/
  | rsa (octets : Bytes)
  /-- The two integers that ECDSA makes. -/
  | ecdsa (r s : Bytes)
  deriving Repr, DecidableEq

/-- A signature with the names of its algorithms. -/
structure Signature where
  /-- The scheme. -/
  algorithm : Algorithm
  /-- The hash. -/
  hashAlgorithm : Algorithm
  /-- The signature proper. -/
  data : SignatureData
  deriving Repr, DecidableEq

/-- Why a string is not a signature. -/
inductive SignatureFormFault where
  /-- The string is cut short. -/
  | underflow (fault : Underflow)
  /-- The scheme is the null algorithm. -/
  | unsigned
  /-- An identifier stands for no scheme. -/
  | unsupportedAlgorithm (id : UInt16)
  /-- An identifier stands for no hash. -/
  | unknownHash (id : UInt16)
  /-- Something follows the signature. -/
  | trailing (count : Nat)
  deriving Repr, DecidableEq

/-- The wording of a fault. -/
def SignatureFormFault.message : SignatureFormFault → String
  | underflow fault => fault.message
  | unsigned => "signature algorithm is TPM_ALG_NULL; the quote is unsigned"
  | unsupportedAlgorithm id =>
    s!"unsupported signature algorithm 0x{Hex.encodeUpper (Wire.u16 id)}"
  | unknownHash id => s!"unknown signature hash algorithm 0x{Hex.encodeUpper (Wire.u16 id)}"
  | trailing count => s!"{count} trailing bytes after signature"

namespace Signature

/-- The octets of a signature: the string, or the two integers one after the other. -/
def octets (s : Signature) : Bytes :=
  match s.data with
  | .rsa octets => octets
  | .ecdsa r s => r ++ s

/-- The scheme with an identifier. -/
def schemeOfId (id : UInt16) : Except SignatureFormFault Algorithm :=
  match Algorithm.ofId? id with
  | some .rsassa => .ok .rsassa
  | some .rsapss => .ok .rsapss
  | some .ecdsa => .ok .ecdsa
  | some .null => .error .unsigned
  | _ => .error (.unsupportedAlgorithm id)

/-- Reads the part of a signature that its scheme makes. -/
def readData (algorithm : Algorithm) : Reader SignatureFormFault SignatureData := do
  let first ← Reader.sized.orFail .underflow
  if algorithm = .ecdsa then
    let second ← Reader.sized.orFail .underflow
    return .ecdsa first second
  return .rsa first

/-- Reads a **signature**, which must be all there is to read. -/
def read : Reader SignatureFormFault Signature := do
  let id ← Reader.u16.orFail .underflow
  let algorithm ← Reader.ofExcept (schemeOfId id)
  let hashId ← Reader.u16.orFail .underflow
  let some hashAlgorithm := (Algorithm.ofId? hashId).filter Algorithm.isHash
    | throw (.unknownHash hashId)
  let data ← readData algorithm
  let trailing ← Reader.remaining
  if trailing ≠ 0 then throw (.trailing trailing)
  return ⟨algorithm, hashAlgorithm, data⟩

/-- The **signature** that a string is. -/
def decode (raw : Bytes) : Except SignatureFormFault Signature :=
  read.parse raw

/-- The wire form of what a scheme makes. -/
def writeData : SignatureData → Bytes
  | .rsa octets => Wire.sized octets
  | .ecdsa r s => Wire.sized r ++ Wire.sized s

/-- The **wire form** of a signature. -/
def write (s : Signature) : Bytes :=
  Wire.u16 s.algorithm.id ++ Wire.u16 s.hashAlgorithm.id ++ writeData s.data

end Signature

end RemoteAttestation
