import RemoteAttestation.Curve.Sec1
import RemoteAttestation.Der.KeyInfo
import RemoteAttestation.Pcr.SelectionList
import RemoteAttestation.Pem
import RemoteAttestation.Rsa.Key

/-!
# Attestation Keys

The public half of the key that signs quotes: a point of one of the curves, or an RSA key. This
module holds the type, the faults that loading a key can meet, and the form of a key as an
encoded point, whose curve follows from its length.

## Main definitions

* `AttestationKey`: the keys, with `AttestationKey.algorithmName`.
* `KeyFault`: why a string is not a key.
* `AttestationKey.ofPoint`: the key that an encoded point is.
-/

namespace RemoteAttestation

/-- The public half of a key that signs quotes. -/
inductive AttestationKey where
  /-- A key on a curve. -/
  | elliptic (curve : Curve) (point : curve.Point)
  /-- An RSA key. -/
  | rsa (key : RsaKey)
  deriving DecidableEq

/-- An integer that does not fit in the width it should have. -/
structure OversizedInteger where
  /-- The number of octets that the integer needs. -/
  size : Nat
  /-- The number of octets there are for it. -/
  width : Nat
  deriving Repr, DecidableEq

/-- The wording of the fault. -/
def OversizedInteger.message (fault : OversizedInteger) : String :=
  s!"{fault.size}-byte integer does not fit in {fault.width} bytes"

/-- An integer in exactly `width` octets. -/
def Bytes.fit (width : Nat) (b : Bytes) : Except OversizedInteger Bytes :=
  match Bytes.fit? width b with
  | some fitted => .ok fitted
  | none => .error ⟨(Bytes.significant b).length, width⟩

/-- Why a string is not a key. -/
inductive KeyFault where
  /-- The string has the length of a point of the curve but is none. -/
  | notAPoint (curve : Curve)
  /-- The string has not the length of any point. -/
  | pointLength (length : Nat)
  /-- The blocks of the file cannot be read. -/
  | pem (fault : PemFault)
  /-- The file holds no certificate. -/
  | noCertificate
  /-- The file holds no public key. -/
  | noKeyInfo
  /-- The first certificate of the file is not one. -/
  | notACertificate
  /-- The first public key of the file is not one. -/
  | notAKeyInfo
  /-- The key is not a whole number of octets. -/
  | unusedBits
  /-- The key's algorithm is neither on a curve nor RSA. -/
  | unknownAlgorithm (id : Der.Identifier)
  /-- The integers of an RSA key cannot be read, or are not a key. -/
  | notAnRsaKey
  /-- The integers of a TPM's RSA key are not a key. -/
  | rsa (fault : RsaKeyFault)
  /-- The TPM's public area is cut short. -/
  | underflow (fault : Underflow)
  /-- The TPM's public area is that of another kind of object. -/
  | unsupportedType (id : UInt16)
  /-- The TPM's key lies on another curve. -/
  | unsupportedCurve (id : UInt16)
  /-- A coordinate in the TPM's public area is too large. -/
  | oversized (fault : OversizedInteger)
  deriving Repr, DecidableEq

namespace KeyFault

/-- The usual name of a curve. -/
def curveName : Curve → String
  | .p256 => "P-256"
  | .p384 => "P-384"

/-- The wording of a fault. -/
def message : KeyFault → String
  | notAPoint curve => s!"Invalid {curveName curve} key: signature error"
  | pointLength length => s!"{length} bytes is not a P-256 or P-384 SEC1 point"
  | pem fault => fault.message
  | noCertificate => "No certificates found in PEM"
  | noKeyInfo => "No public key found in PEM"
  | notACertificate => "Invalid certificate"
  | notAKeyInfo => "Invalid SubjectPublicKeyInfo"
  | unusedBits => "Public key has unused bits"
  | unknownAlgorithm id => s!"Unsupported public key algorithm OID: {id.dotted}"
  | notAnRsaKey => "Invalid RSA key"
  | rsa fault => s!"Invalid RSA key: {fault.message}"
  | underflow fault => s!"TPMT_PUBLIC: {fault.message}"
  | unsupportedType id => s!"Unsupported TPM key type 0x{Hex.encodeUpper (Wire.u16 id)}"
  | unsupportedCurve id => s!"Unsupported ECC curve 0x{Hex.encodeUpper (Wire.u16 id)}"
  | oversized fault => fault.message

end KeyFault

namespace AttestationKey

/-- The name of a key's algorithm and size. -/
def algorithmName : AttestationKey → String
  | elliptic .p256 _ => "ecc-p256"
  | elliptic .p384 _ => "ecc-p384"
  | rsa key => s!"rsa-{8 * key.size}"

/-- The curve whose points are written in so many octets, with one coordinate or with both. -/
def curveOfLength? (length : Nat) : Option Curve :=
  [Curve.p256, Curve.p384].find? fun c => length = c.width + 1 ∨ length = 2 * c.width + 1

/-- The key that an **encoded point** is. -/
def ofPoint (b : Bytes) : Except KeyFault AttestationKey :=
  match curveOfLength? b.length with
  | none => .error (.pointLength b.length)
  | some c =>
    match Sec1.decode? c b with
    | some point => .ok (elliptic c point)
    | none => .error (.notAPoint c)

end AttestationKey

end RemoteAttestation
