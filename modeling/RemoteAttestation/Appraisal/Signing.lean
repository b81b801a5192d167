import RemoteAttestation.Curve.Ecdsa
import RemoteAttestation.Key.Basic
import RemoteAttestation.Notice
import RemoteAttestation.Rsa.Pkcs1
import RemoteAttestation.Rsa.Pss
import RemoteAttestation.Signature

/-!
# The Check of the Signature

A signature is checked over the octets of the attestation as they were received. What can be
checked depends on the kind of key: two integers need a key on a curve, a string needs an RSA
key and one of the two RSA schemes. With the scheme that uses a salt, a TPM takes the longest
salt there is room for, or, in a stricter mode, one as long as the digest; both are tried.

## Main definitions

* `SignatureFault`: why a signature is not accepted.
* `Pss.maximalSalt`: the longest salt.
* `AttestationKey.check`: the check of a signature.
-/

namespace RemoteAttestation

/-- Why a signature is not accepted. -/
inductive SignatureFault where
  /-- The hash of the signature is none. -/
  | notAHash (algorithm : Algorithm)
  /-- The signature is of another kind than the key. -/
  | wrongKey (algorithm : Algorithm) (keyName : String)
  /-- The scheme is not one for RSA keys. -/
  | notAnRsaScheme (algorithm : Algorithm)
  /-- An integer of the signature is too large for the curve. -/
  | oversized (fault : OversizedInteger)
  /-- The integers of the signature do not sign the message. -/
  | wrongIntegers
  /-- The string of the signature does not sign the message. -/
  | wrongString
  deriving Repr, DecidableEq

/-- The wording of a fault. -/
def SignatureFault.message : SignatureFault → String
  | notAHash algorithm => s!"unsupported hash {algorithm.name}"
  | wrongKey algorithm keyName =>
    s!"{algorithm.name} signature cannot be checked with a {keyName} key"
  | notAnRsaScheme algorithm => s!"{algorithm.name} is not an RSA signature scheme"
  | oversized fault => s!"invalid AK public key: {fault.message}"
  | wrongIntegers => "signature error"
  | wrongString => "verification error"

/-- What the operator is told of a fault. A signature without a hash is passed over in
silence. -/
def SignatureFault.notices : SignatureFault → List Notice
  | notAHash _ => []
  | fault => [⟨.warn, s!"Quote signature verification failed: {fault.message}"⟩]

/-- The length of the longest salt: what the size of the modulus leaves beside the digest and
two octets. -/
def Pss.maximalSalt (key : RsaKey) (hash : HashAlgorithm) : Nat :=
  key.size - (hash.size + 2)

namespace AttestationKey

/-- The check of two integers against a digest. -/
def checkIntegers (c : Curve) (point : c.Point) (digest r s : Bytes) :
    Except SignatureFault Unit := do
  let r ← (Bytes.fit c.width r).mapError .oversized
  let s ← (Bytes.fit c.width s).mapError .oversized
  if Ecdsa.verify c point digest (Bytes.value r) (Bytes.value s) then return ()
  throw .wrongIntegers

/-- The check of a string against a digest, in one of the RSA schemes. -/
def checkString (key : RsaKey) (algorithm : Algorithm) (hash : HashAlgorithm)
    (digest octets : Bytes) : Except SignatureFault Unit :=
  match algorithm with
  | .rsassa => if Pkcs1.verify key hash digest octets then .ok () else .error .wrongString
  | .rsapss =>
    if Pss.verify key hash (Pss.maximalSalt key hash) digest octets ||
        Pss.verify key hash hash.size digest octets then .ok ()
    else .error .wrongString
  | other => .error (.notAnRsaScheme other)

/-- The **check** of a signature over a message. -/
def check (key : AttestationKey) (s : Signature) (message : Bytes) : Except SignatureFault Unit :=
  match s.hashAlgorithm.hash? with
  | none => .error (.notAHash s.hashAlgorithm)
  | some hash =>
    let digest := hash.digest message
    match key, s.data with
    | elliptic c point, .ecdsa first second => checkIntegers c point digest first second
    | rsa rsaKey, .rsa octets => checkString rsaKey s.algorithm hash digest octets
    | key, _ => .error (.wrongKey s.algorithm key.algorithmName)

/-- What the operator is told of the check of a signature. -/
def checkNotices (key : AttestationKey) (s : Signature) : Except SignatureFault Unit → List Notice
  | .ok () =>
    [⟨.debug, s!"Quote signature verified ({s.algorithm.name} / {key.algorithmName})"⟩]
  | .error fault => fault.notices

end AttestationKey

end RemoteAttestation
