import RemoteAttestation.Key.PublicArea

/-!
# Loading Attestation Keys

Operators keep attestation keys in several kinds of files. Certificates and public keys are
recognised by the marker that begins their block; a file with both is read as a certificate.
Anything else is tried as an encoded point and then as the public area of a TPM. A certificate
is not verified: its subject's key is taken as it stands.

## Main definitions

* `AttestationKey.ofKeyInfo`: the key in the DER form that certificates use.
* `AttestationKey.ofCertificateFile`, `AttestationKey.ofKeyFile`: the first key of a file with
  certificates or public keys.
* `AttestationKey.load`: the key of a file of any kind.
-/

namespace RemoteAttestation.AttestationKey

/-- The label of a certificate's block. -/
def certificateLabel : String := "CERTIFICATE"

/-- The label of a public key's block. -/
def keyLabel : String := "PUBLIC KEY"

/-- The identifier of keys on curves. -/
def eccIdentifier : Der.Identifier := [1, 2, 840, 10045, 2, 1]

/-- The identifier of RSA keys. -/
def rsaIdentifier : Der.Identifier := [1, 2, 840, 113549, 1, 1, 1]

/-- The RSA key in the DER form of its two integers. -/
def ofRsaIntegers (b : Bytes) : Except KeyFault AttestationKey :=
  match Der.rsaIntegers? b with
  | none => .error .notAnRsaKey
  | some (modulus, exponent) =>
    match RsaKey.make modulus exponent with
    | .error _ => .error .notAnRsaKey
    | .ok key => .ok (rsa key)

/-- The key in the DER form that certificates use. The curve of a point follows from the length
of the point. -/
def ofKeyInfo (info : Der.KeyInfo) : Except KeyFault AttestationKey :=
  if info.key.unused ≠ 0 then .error .unusedBits
  else if info.algorithm.id = eccIdentifier then ofPoint info.key.octets
  else if info.algorithm.id = rsaIdentifier then ofRsaIntegers info.key.octets
  else .error (.unknownAlgorithm info.algorithm.id)

/-- The content of the first block of a label; `missing` is the fault when there is none. -/
def firstBlock (label text : String) (missing : KeyFault) : Except KeyFault Bytes := do
  match ← (Pem.blocks label text).mapError .pem with
  | [] => throw missing
  | content :: _ => return content

/-- The key of the first certificate of a file. -/
def ofCertificateFile (text : String) : Except KeyFault AttestationKey := do
  match Der.certificateKey? (← firstBlock certificateLabel text .noCertificate) with
  | none => throw .notACertificate
  | some info => ofKeyInfo info

/-- The first public key of a file. -/
def ofKeyFile (text : String) : Except KeyFault AttestationKey := do
  match Der.keyInfo? (← firstBlock keyLabel text .noKeyInfo) with
  | none => throw .notAKeyInfo
  | some info => ofKeyInfo info

/-- Whether a text holds the marker that begins a block of the label. -/
def begins (label text : String) : Bool :=
  Text.occursIn (Pem.beginMarker label).toList text.toList

/-- The key of a file that holds no block: an encoded point with a first octet from two to
four, or the public area of a TPM. -/
def ofBinary (b : Bytes) : Except KeyFault AttestationKey :=
  if b.head?.any fun tag => 2 ≤ tag && tag ≤ 4 then
    match ofPoint b with
    | .ok key => .ok key
    | .error _ => ofPublicArea b
  else ofPublicArea b

/-- The key of a **file** of any kind. -/
def load (b : Bytes) : Except KeyFault AttestationKey :=
  match b.toText? with
  | some text =>
    if begins certificateLabel text then ofCertificateFile text
    else if begins keyLabel text then ofKeyFile text
    else ofBinary b
  | none => ofBinary b

end RemoteAttestation.AttestationKey
