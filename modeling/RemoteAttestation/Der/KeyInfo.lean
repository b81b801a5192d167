import RemoteAttestation.Der.Primitive

/-!
# Public Keys in DER

The structures that carry a public key: a key with the name of its algorithm, the two integers
of an RSA key, and a certificate. Of a certificate only the key of its subject is kept. The
rest must have the form the standard gives it, but what it says is not judged: neither the
signature, nor the validity, nor whether the two names of the signing algorithm agree.

## Main definitions

* `Der.AlgorithmInfo`, `Der.algorithm?`: the name of an algorithm with its parameter.
* `Der.KeyInfo`, `Der.keyInfo?`: a key with the name of its algorithm.
* `Der.rsaIntegers?`: the modulus and the exponent of an RSA key.
* `Der.certificateKey?`: the subject's key of a certificate.
-/

namespace RemoteAttestation.Der

/-! ### Keys -/

/-- The name of an algorithm. -/
structure AlgorithmInfo where
  /-- The identifier. -/
  id : Identifier
  /-- The parameter, which may be an element of any kind. -/
  parameter : Option Element
  deriving Repr, DecidableEq

/-- The **algorithm** that an element names: an identifier, and perhaps one parameter. -/
def algorithm? (e : Element) : Option AlgorithmInfo := do
  match ← sequence? e with
  | [id] => return ⟨← (tagged? identifierTag id).bind identifier?, none⟩
  | [id, parameter] => return ⟨← (tagged? identifierTag id).bind identifier?, some parameter⟩
  | _ => none

/-- A public key with the name of its algorithm. -/
structure KeyInfo where
  /-- The algorithm. -/
  algorithm : AlgorithmInfo
  /-- The key, in the form that its algorithm gives it. -/
  key : BitString
  deriving Repr, DecidableEq

/-- The key in an element. -/
def elementKeyInfo? (e : Element) : Option KeyInfo := do
  match ← sequence? e with
  | [algorithm, key] =>
    return ⟨← algorithm? algorithm, ← (tagged? bitStringTag key).bind bitString?⟩
  | _ => none

/-- The **key** that a string describes. -/
def keyInfo? (b : Bytes) : Option KeyInfo :=
  (element? b).bind elementKeyInfo?

/-- The modulus and the exponent of an **RSA key**. -/
def rsaIntegers? (b : Bytes) : Option (Nat × Nat) := do
  match ← sequence? (← element? b) with
  | [modulus, exponent] =>
    return (← (tagged? integerTag modulus).bind natural?,
      ← (tagged? integerTag exponent).bind natural?)
  | _ => none

/-! ### Parts of a certificate -/

/-- The element with the context-specific number `number` at the head of a list, and what
follows it. Context-specific elements with smaller numbers are passed over. -/
def optionalField (number : UInt8) : List Element → Option Element × List Element
  | [] => (none, [])
  | e :: rest =>
    match contextNumber? e.tag with
    | none => (none, e :: rest)
    | some n =>
      if n = number then (some e, rest)
      else if number < n then (none, e :: rest)
      else optionalField number rest

/-- Whether an element is a version in its wrapping, numbered from zero to two. -/
def isVersion (e : Element) : Bool :=
  e.tag == 0xa0 &&
    match (element? e.content).bind (tagged? integerTag) |>.bind natural? with
    | some version => version ≤ 2
    | none => false

/-- Whether an element is a serial number: an integer of at most twenty-one octets. -/
def isSerialNumber (e : Element) : Bool :=
  e.tag == integerTag && isInteger e.content && e.content.length ≤ 21

/-- Whether an element is an attribute of a name: an identifier and any value. -/
def isAttribute (e : Element) : Bool :=
  match sequence? e with
  | some [id, _] => ((tagged? identifierTag id).bind identifier?).isSome
  | _ => false

/-- Whether an element is a set of attributes, no two of which are the same. -/
def isAttributeSet (e : Element) : Bool :=
  e.tag == setTag &&
    match e.children? with
    | some attributes => attributes.all isAttribute && decide attributes.Nodup
    | none => false

/-- Whether an element is a name: a sequence of sets of attributes. -/
def isName (e : Element) : Bool :=
  match sequence? e with
  | some sets => sets.all isAttributeSet
  | none => false

/-- Whether an element is a period of validity: two times. -/
def isValidity (e : Element) : Bool :=
  match sequence? e with
  | some [start, stop] => isTime start && isTime stop
  | _ => false

/-- Whether an element is an identifier that the issuer gives to itself or to the subject: a
string of bits under the given tag. -/
def isUniqueId (tag : UInt8) (e : Element) : Bool :=
  ((tagged? tag e).bind bitString?).isSome

/-- Whether an element is an extension: an identifier, perhaps a truth value, and octets. -/
def isExtension (e : Element) : Bool :=
  match sequence? e with
  | some (id :: rest) =>
    ((tagged? identifierTag id).bind identifier?).isSome &&
      match rest with
      | [value] => value.tag == octetStringTag
      | [critical, value] =>
        critical.tag == booleanTag && isBoolean critical.content && value.tag == octetStringTag
      | _ => false
  | _ => false

/-- Whether an element is a list of extensions in its wrapping. -/
def isExtensions (e : Element) : Bool :=
  e.tag == 0xa3 &&
    match (element? e.content).bind sequence? with
    | some extensions => extensions.all isExtension
    | none => false

/-! ### Certificates -/

/-- The subject's key among the fields of a certificate's signed part. -/
def signedFieldsKey? (fields : List Element) : Option KeyInfo :=
  let (version, fields) := optionalField 0 fields
  match fields with
  | serial :: algorithm :: issuer :: validity :: subject :: key :: fields =>
    let (issuerId, fields) := optionalField 1 fields
    let (subjectId, fields) := optionalField 2 fields
    let (extensions, fields) := optionalField 3 fields
    if version.all isVersion && isSerialNumber serial && (algorithm? algorithm).isSome &&
        isName issuer && isValidity validity && isName subject &&
        issuerId.all (isUniqueId 0x81) && subjectId.all (isUniqueId 0x82) &&
        extensions.all isExtensions && fields.isEmpty then
      elementKeyInfo? key
    else none
  | _ => none

/-- The **subject's key** of a certificate: the signed part, an algorithm and a signature. -/
def certificateKey? (b : Bytes) : Option KeyInfo := do
  match ← sequence? (← element? b) with
  | [signed, algorithm, signature] =>
    let _ ← algorithm? algorithm
    let _ ← (tagged? bitStringTag signature).bind bitString?
    signedFieldsKey? (← sequence? signed)
  | _ => none

end RemoteAttestation.Der
