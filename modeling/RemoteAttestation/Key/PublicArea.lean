import RemoteAttestation.Key.Basic

/-!
# Public Areas

A TPM describes a key it holds by a public area: the type of the key, its name algorithm and
attributes, a policy, and then details that depend on the type and on earlier fields. The type
`PublicArea` holds all of it, so reading and writing can be compared; the key itself needs only
the last few fields. What follows the area is not looked at. A file may hold the area as it is
or behind its length.

## Main definitions

* `PublicArea`: the public area of an RSA key or of a key on a curve.
* `PublicArea.read`, `PublicArea.write`: from and to the wire form.
* `PublicArea.key`: the key that an area describes.
* `AttestationKey.ofPublicArea`: the key that a file with an area holds.
-/

namespace RemoteAttestation

/-- A symmetric cipher: what protects the children of a storage key. -/
structure Cipher where
  /-- The cipher's identifier, which is not that of the null algorithm. -/
  id : UInt16
  /-- The number of bits in a key. -/
  keyBits : UInt16
  /-- The mode of operation. -/
  mode : UInt16
  deriving Repr, DecidableEq

/-- The only scheme in which a key may sign, or the only way in which it may derive others. -/
structure BoundScheme where
  /-- The scheme's identifier, which is not that of the null algorithm. -/
  id : UInt16
  /-- The hash of the scheme. -/
  hash : UInt16
  /-- The count of an anonymous scheme on a curve. -/
  count : Option UInt16
  deriving Repr, DecidableEq

/-- The part of a public area that depends on the type of the key. -/
inductive KeyParameters where
  /-- An RSA key: the number of its bits, its exponent and its modulus. -/
  | rsa (keyBits : UInt16) (exponent : UInt32) (modulus : Bytes)
  /-- A key on a curve: the curve, the way to derive keys, and the coordinates. -/
  | ecc (curve : UInt16) (derivation : Option BoundScheme) (x y : Bytes)
  deriving Repr, DecidableEq

/-- The public area of a key. -/
structure PublicArea where
  /-- The hash that names the key. -/
  nameAlgorithm : UInt16
  /-- The attributes of the object. -/
  attributes : UInt32
  /-- The policy that authorises the use of the key. -/
  policy : Bytes
  /-- The cipher that the key is bound to. -/
  cipher : Option Cipher
  /-- The scheme that the key is bound to. -/
  scheme : Option BoundScheme
  /-- The rest. -/
  parameters : KeyParameters
  deriving Repr, DecidableEq

namespace PublicArea

/-- The identifier of the anonymous signing scheme on curves, whose details hold a count. -/
def anonymousScheme : UInt16 := 0x001A

/-- The exponent that is meant by a zero. -/
def defaultExponent : Nat := 65537

/-- The curve with an identifier. -/
def curve? (id : UInt16) : Option Curve :=
  if id = 0x0003 then some .p256 else if id = 0x0004 then some .p384 else none

/-! ### Reading -/

/-- Reads a cipher, which may be none. -/
def readCipher : Reader Underflow (Option Cipher) := do
  let id ← Reader.u16
  if id = Algorithm.null.id then return none
  let keyBits ← Reader.u16
  let mode ← Reader.u16
  return some ⟨id, keyBits, mode⟩

/-- Reads a scheme, which may be none. `counted` tells which schemes have a count. -/
def readScheme (counted : UInt16 → Bool) : Reader Underflow (Option BoundScheme) := do
  let id ← Reader.u16
  if id = Algorithm.null.id then return none
  let hash ← Reader.u16
  if counted id then return some ⟨id, hash, some (← Reader.u16)⟩
  return some ⟨id, hash, none⟩

/-- Reads the parameters of an RSA key. -/
def readRsa : Reader Underflow KeyParameters := do
  let keyBits ← Reader.u16
  let exponent ← Reader.u32
  let modulus ← Reader.sized
  return .rsa keyBits exponent modulus

/-- Reads the parameters of a key on a curve. -/
def readEcc : Reader Underflow KeyParameters := do
  let curve ← Reader.u16
  let derivation ← readScheme fun _ => false
  let x ← Reader.sized
  let y ← Reader.sized
  return .ecc curve derivation x y

/-- Reads a **public area**. -/
def read : Reader KeyFault PublicArea := do
  let type ← Reader.u16.orFail .underflow
  let nameAlgorithm ← Reader.u16.orFail .underflow
  let attributes ← Reader.u32.orFail .underflow
  let policy ← Reader.sized.orFail .underflow
  match Algorithm.ofId? type with
  | some .rsa =>
    let cipher ← readCipher.orFail .underflow
    let scheme ← (readScheme fun _ => false).orFail .underflow
    return ⟨nameAlgorithm, attributes, policy, cipher, scheme, ← readRsa.orFail .underflow⟩
  | some .ecc =>
    let cipher ← readCipher.orFail .underflow
    let scheme ← (readScheme (· == anonymousScheme)).orFail .underflow
    return ⟨nameAlgorithm, attributes, policy, cipher, scheme, ← readEcc.orFail .underflow⟩
  | _ => throw (.unsupportedType type)

/-! ### Writing -/

/-- The wire form of a cipher. -/
def writeCipher : Option Cipher → Bytes
  | none => Wire.u16 Algorithm.null.id
  | some cipher => Wire.u16 cipher.id ++ Wire.u16 cipher.keyBits ++ Wire.u16 cipher.mode

/-- The wire form of a scheme. -/
def writeScheme : Option BoundScheme → Bytes
  | none => Wire.u16 Algorithm.null.id
  | some scheme =>
    Wire.u16 scheme.id ++ Wire.u16 scheme.hash ++ (scheme.count.map Wire.u16).getD []

/-- The wire form of the parameters. -/
def writeParameters : KeyParameters → Bytes
  | .rsa keyBits exponent modulus => Wire.u16 keyBits ++ Wire.u32 exponent ++ Wire.sized modulus
  | .ecc curve derivation x y =>
    Wire.u16 curve ++ writeScheme derivation ++ Wire.sized x ++ Wire.sized y

/-- The algorithm that stands for the type of a key. -/
def typeOf : KeyParameters → Algorithm
  | .rsa .. => .rsa
  | .ecc .. => .ecc

/-- The **wire form** of a public area. -/
def write (area : PublicArea) : Bytes :=
  Wire.u16 (typeOf area.parameters).id ++ Wire.u16 area.nameAlgorithm ++
    Wire.u32 area.attributes ++ Wire.sized area.policy ++ writeCipher area.cipher ++
    writeScheme area.scheme ++ writeParameters area.parameters

/-! ### Keys -/

/-- The key with the given coordinates. -/
def eccKey (curve : UInt16) (x y : Bytes) : Except KeyFault AttestationKey := do
  let some c := curve? curve | throw (.unsupportedCurve curve)
  let x ← (Bytes.fit c.width x).mapError .oversized
  let y ← (Bytes.fit c.width y).mapError .oversized
  AttestationKey.ofPoint (4 :: x ++ y)

/-- The **key** that an area describes. -/
def key (area : PublicArea) : Except KeyFault AttestationKey :=
  match area.parameters with
  | .rsa _ exponent modulus =>
    let exponent := if exponent = 0 then defaultExponent else exponent.toNat
    ((RsaKey.make modulus.value exponent).mapError .rsa).map .rsa
  | .ecc curve _ x y => eccKey curve x y

/-- The key that the public area at the start of a string describes. -/
def decodeKey (b : Bytes) : Except KeyFault AttestationKey := do
  (← read.parse b).key

/-- What follows a length in two octets, when it has exactly that length. Any other string is
left as it is. -/
def dropLength : Bytes → Bytes
  | high :: low :: rest =>
    if Bytes.value [high, low] = rest.length then rest else high :: low :: rest
  | b => b

end PublicArea

/-- The key that a file with a **public area** holds, as it is or behind its length. -/
def AttestationKey.ofPublicArea (b : Bytes) : Except KeyFault AttestationKey :=
  PublicArea.decodeKey (PublicArea.dropLength b)

end RemoteAttestation
