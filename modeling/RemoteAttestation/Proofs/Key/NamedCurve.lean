import RemoteAttestation.Proofs.Der.Writing
import RemoteAttestation.Proofs.Key.Numbers

/-!
# Curves That Keys Declare

In the form that certificates use, a key on a curve comes with the name of its algorithm, and
the parameter of that name is there to declare the curve: it holds the identifier of one. The
point of the key does not say on which curve it lies. Curves share the lengths of their points,
and where only the first coordinate is written, a string may well be a point of several curves.

Loading takes the curve from the length of the point and does not look at the parameter. So a
string describes a point of P-256 or P-384, as far as loading is concerned, with any parameter
there may be or with none (`AttestationKey.PointForm`), and each of these points is loaded
under the name of any curve that can be named. A key that was made for another curve is taken
for a different one.

## Main results

* `AttestationKey.ofKeyInfo_eq_elliptic_iff`: what is loaded as a point.
* `AttestationKey.pointForm_iff`: the strings that describe a point.
* `AttestationKey.ofKeyInfo_named_curve`: what a key may declare.
* `AttestationKey.ofKeyFile_not_declared`: a key of another curve that is loaded.
-/

namespace RemoteAttestation

/-! ### Names of curves -/

/-- The identifier that **names a curve**. -/
def Curve.identifier : Curve → Der.Identifier
  | p256 => [1, 2, 840, 10045, 3, 1, 7]
  | p384 => [1, 3, 132, 0, 34]

/-- The identifier in the parameter of an algorithm, by which a key **declares its curve**. -/
def Der.AlgorithmInfo.namedCurve? (algorithm : AlgorithmInfo) : Option Identifier :=
  algorithm.parameter.bind fun e => (tagged? identifierTag e).bind identifier?

/-- A point is read from both of its coordinates. -/
theorem Sec1.decode?_encode {c : Curve} (point : c.Point) :
    decode? c (encode point) = some point := by
  have hx := Curve.lt_of_lt_prime point.onCurve.1
  have hy := Curve.lt_of_lt_prime point.onCurve.2.1
  have hPoint : AttestationKey.ofPoint (encode point) = .ok (.elliptic c point) :=
    (AttestationKey.ofPoint_coordinates hx hy).trans (dif_pos point.onCurve)
  obtain ⟨c', point', hDecode, hKey⟩ := AttestationKey.ofPoint_eq_ok_iff.mp hPoint
  cases hKey
  exact hDecode

namespace AttestationKey

variable {c : Curve} {point : c.Point}

/-! ### Loading points -/

/-- No RSA key is a point. -/
theorem ofRsaIntegers_ne_elliptic (b : Bytes) : ofRsaIntegers b ≠ .ok (elliptic c point) := by
  rw [ofRsaIntegers]
  split
  · exact nofun
  · split
    · exact nofun
    · exact nofun

/-- **What is loaded as a point** of a curve: a key for curves, in whole octets, that are the
point. The parameter is not asked for. -/
theorem ofKeyInfo_eq_elliptic_iff {info : Der.KeyInfo} :
    ofKeyInfo info = .ok (elliptic c point) ↔
      info.algorithm.id = eccIdentifier ∧ info.key.unused = 0 ∧
        Sec1.decode? c info.key.octets = some point := by
  constructor
  · intro h
    rw [ofKeyInfo] at h
    split at h
    · cases h
    rename_i hUnused
    split at h
    · rename_i hEcc
      obtain ⟨c', point', hDecode, hKey⟩ := ofPoint_eq_ok_iff.mp h
      cases hKey
      exact ⟨hEcc, not_not.mp hUnused, hDecode⟩
    · split at h
      · exact absurd h (ofRsaIntegers_ne_elliptic _)
      · cases h
  · rintro ⟨hEcc, hUnused, hDecode⟩
    rw [ofKeyInfo, if_neg (not_not.mpr hUnused), if_pos hEcc]
    exact ofPoint_eq_ok_iff.mpr ⟨c, point, hDecode, rfl⟩

/-- **The form of a point** as a key in DER, with a parameter or without: the identifier of
keys on curves, and the point. -/
inductive PointForm (point : c.Point) : Option Der.Element → Bytes → Prop where
  | intro {identifier octets : Bytes} {parameter : Option Der.Element}
      (isEcc : Der.identifier? identifier = some eccIdentifier)
      (isPoint : Sec1.decode? c octets = some point)
      (isTag : ∀ e ∈ parameter, Der.isTag e.tag = true)
      (writable : (Der.keyElement identifier parameter (0 :: octets)).Writable) :
      PointForm point parameter (Der.keyElement identifier parameter (0 :: octets)).write

/-- **The strings that describe a point** are those of its form, with any parameter. -/
theorem pointForm_iff {parameter : Option Der.Element} {b : Bytes} :
    PointForm point parameter b ↔
      ∃ info, Der.keyInfo? b = some info ∧ info.algorithm.parameter = parameter ∧
        ofKeyInfo info = .ok (elliptic c point) := by
  constructor
  · rintro ⟨isEcc, isPoint, isTag, writable⟩
    refine ⟨⟨⟨eccIdentifier, parameter⟩, ⟨0, _⟩⟩, Der.keyInfo?_eq_some_iff.mpr ?_, rfl,
      ofKeyInfo_eq_elliptic_iff.mpr ⟨rfl, rfl, isPoint⟩⟩
    exact ⟨_, _, isEcc, Der.bitString?_eq_some_iff.mpr rfl, isTag, writable, rfl⟩
  · rintro ⟨info, hInfo, rfl, hKey⟩
    obtain ⟨⟨id, parameter⟩, ⟨unused, octets⟩⟩ := info
    obtain ⟨identifier, bits, hIdentifier, hBits, hTag, hWritable, rfl⟩ :=
      Der.keyInfo?_eq_some_iff.mp hInfo
    obtain ⟨rfl, rfl, hPoint⟩ := ofKeyInfo_eq_elliptic_iff.mp hKey
    obtain rfl := Der.bitString?_eq_some_iff.mp hBits
    exact .intro hIdentifier hPoint hTag hWritable

/-- A point has a form with **any parameter** that is not too long. -/
theorem exists_pointForm (point : c.Point) {parameter : Option Der.Element}
    (hTag : ∀ e ∈ parameter, Der.isTag e.tag = true)
    (hLength : ∀ e ∈ parameter, e.content.length ≤ 2 ^ 24) : ∃ b, PointForm point parameter b := by
  have hIdentifier : Der.identifier? [0x2a, 0x86, 0x48, 0xce, 0x3d, 0x02, 0x01] =
      some eccIdentifier := by decide
  have hPoint : (0 :: Sec1.encode point).length ≤ 2 ^ 24 := by
    have hWidth : c.width ≤ 48 := by
      cases c with
      | p256 => decide
      | p384 => decide
    rw [Sec1.encode, List.length_cons, List.length_append, List.length_cons, Bytes.length_ofNat,
      Bytes.length_ofNat]
    omega
  have hShort : ([0x2a, 0x86, 0x48, 0xce, 0x3d, 0x02, 0x01] : Bytes).length ≤ 2 ^ 24 := by
    simp
  exact ⟨_, .intro hIdentifier (Sec1.decode?_encode point) hTag
    (Der.writable_keyElement hShort hPoint hLength)⟩

/-! ### Files -/

/-- What the first block of a file is loaded as: the key in it, if it can be read and holds
one. -/
theorem block_eq_ok_iff {block : Except KeyFault Bytes} {read? : Bytes → Option Der.KeyInfo}
    {fault : KeyFault} {key : AttestationKey} :
    (do match read? (← block) with
      | none => throw fault
      | some info => ofKeyInfo info) = .ok key ↔
      ∃ b info, block = .ok b ∧ read? b = some info ∧ ofKeyInfo info = .ok key := by
  rw [bind_eq_ok_iff]
  constructor
  · rintro ⟨b, hBlock, hKey⟩
    split at hKey
    · cases hKey
    · rename_i info hInfo
      exact ⟨b, info, hBlock, hInfo, hKey⟩
  · rintro ⟨b, info, hBlock, hInfo, hKey⟩
    refine ⟨b, hBlock, ?_⟩
    rw [hInfo]
    exact hKey

/-- A file with public keys is loaded as what **its first key** is loaded as. -/
theorem ofKeyFile_eq_ok_iff {text : String} {key : AttestationKey} :
    ofKeyFile text = .ok key ↔
      ∃ b info, firstBlock keyLabel text .noKeyInfo = .ok b ∧ Der.keyInfo? b = some info ∧
        ofKeyInfo info = .ok key :=
  block_eq_ok_iff

/-- A file with certificates is loaded as what **the key of its first certificate** is loaded
as. -/
theorem ofCertificateFile_eq_ok_iff {text : String} {key : AttestationKey} :
    ofCertificateFile text = .ok key ↔
      ∃ b info, firstBlock certificateLabel text .noCertificate = .ok b ∧
        Der.certificateKey? b = some info ∧ ofKeyInfo info = .ok key :=
  block_eq_ok_iff

/-! ### What a key may declare -/

/-- Identifiers are short. -/
theorem length_le_of_identifier? {content : Bytes} {id : Der.Identifier}
    (h : Der.identifier? content = some id) : content.length ≤ 39 := by
  unfold Der.identifier? at h
  split at h
  · cases h
  · omega

/-- **What a key may declare**: any curve that can be named, or none. A file with public keys
is loaded as a point when the first of them is the form of the point with some parameter, and a
file with certificates when the key of the first one is the point, whatever the parameter says.
Another parameter, or none, changes nothing about what a key is loaded as. So each point is
described under the name of every curve that there is a name for, and under no name, and loaded
all the same. -/
theorem ofKeyInfo_named_curve (point : c.Point) :
    (∀ text, ofKeyFile text = .ok (elliptic c point) ↔
      ∃ b parameter, firstBlock keyLabel text .noKeyInfo = .ok b ∧ PointForm point parameter b) ∧
    (∀ text, ofCertificateFile text = .ok (elliptic c point) ↔
      ∃ b info, firstBlock certificateLabel text .noCertificate = .ok b ∧
        Der.certificateKey? b = some info ∧ info.algorithm.id = eccIdentifier ∧
          info.key.unused = 0 ∧ Sec1.decode? c info.key.octets = some point) ∧
    (∀ (info : Der.KeyInfo) (parameter : Option Der.Element),
      ofKeyInfo ⟨⟨info.algorithm.id, parameter⟩, info.key⟩ = ofKeyInfo info) ∧
    ∀ declared : Option Der.Identifier,
      (∀ id ∈ declared, ∃ content, Der.identifier? content = some id) →
        ∃ b info, Der.keyInfo? b = some info ∧ info.algorithm.namedCurve? = declared ∧
          (declared = none → info.algorithm.parameter = none) ∧
            ofKeyInfo info = .ok (elliptic c point) := by
  refine ⟨fun text => ?_, fun text => ?_, fun info parameter => rfl, fun declared hNamed => ?_⟩
  · rw [ofKeyFile_eq_ok_iff]
    constructor
    · rintro ⟨b, info, hBlock, hInfo, hKey⟩
      exact ⟨b, _, hBlock, pointForm_iff.mpr ⟨info, hInfo, rfl, hKey⟩⟩
    · rintro ⟨b, parameter, hBlock, hForm⟩
      obtain ⟨info, hInfo, -, hKey⟩ := pointForm_iff.mp hForm
      exact ⟨b, info, hBlock, hInfo, hKey⟩
  · simp only [ofCertificateFile_eq_ok_iff, ofKeyInfo_eq_elliptic_iff]
  · cases declared with
    | none =>
        obtain ⟨b, hForm⟩ : ∃ b, PointForm point none b := exists_pointForm point nofun nofun
        obtain ⟨info, hInfo, hParameter, hKey⟩ := pointForm_iff.mp hForm
        refine ⟨b, info, hInfo, ?_, fun _ => hParameter, hKey⟩
        rw [Der.AlgorithmInfo.namedCurve?, hParameter, Option.bind_none]
    | some id =>
        obtain ⟨content, hContent⟩ := hNamed id rfl
        obtain ⟨b, hForm⟩ : ∃ b, PointForm point (some ⟨Der.identifierTag, content⟩) b := by
          refine exists_pointForm point ?_ ?_
          · rintro _ ⟨⟩
            rfl
          · rintro _ ⟨⟩
            exact (length_le_of_identifier? hContent).trans (by decide)
        obtain ⟨info, hInfo, hParameter, hKey⟩ := pointForm_iff.mp hForm
        refine ⟨b, info, hInfo, ?_, nofun, hKey⟩
        rw [Der.AlgorithmInfo.namedCurve?, hParameter, Option.bind_some]
        exact Der.tagged?_bind_eq_some_iff.mpr ⟨content, rfl, hContent⟩

end AttestationKey

/-! ### A key of another curve -/

namespace OtherCurve

/-- The identifier of a curve that is neither P-256 nor P-384 but has points of the lengths of
P-256. -/
def declared : Der.Identifier :=
  [1, 3, 132, 0, 10]

/-- Twice the base point of that curve, with the first coordinate only. -/
def info : Der.KeyInfo where
  algorithm := ⟨AttestationKey.eccIdentifier,
    some ⟨Der.identifierTag, [0x2b, 0x81, 0x04, 0x00, 0x0a]⟩⟩
  key := ⟨0, 2 :: Bytes.ofNat 32 0xc6047f9441ed7d6d3045406e95c07cd85c778e4b8cef3ca7abac09b95c709ee5⟩

/-- The form of the key. -/
def form : Bytes :=
  (Der.keyElement [0x2a, 0x86, 0x48, 0xce, 0x3d, 0x02, 0x01] info.algorithm.parameter
    (0 :: info.key.octets)).write

/-- A file with the key. -/
def text : String :=
  "-----BEGIN PUBLIC KEY-----\n" ++
    "MDYwEAYHKoZIzj0CAQYFK4EEAAoDIgACxgR/lEHtfW0wRUBulcB82Fx3jkuM7zynq6wJuVxwnuU=\n" ++
      "-----END PUBLIC KEY-----\n"

/-- The point of P-256 that it is taken for. -/
def point : Curve.Point .p256 where
  x := 0xc6047f9441ed7d6d3045406e95c07cd85c778e4b8cef3ca7abac09b95c709ee5
  y := 0xc7f2ad45b330be02c313652fcfd9dc65e00bfd6f5c38f97ea3262576501e507c
  onCurve := by decide +kernel

/-- The file is loaded as the point of P-256. -/
theorem ofKeyFile_text : AttestationKey.ofKeyFile text = .ok (.elliptic .p256 point) := by
  decide +kernel

/-- The first block of the file is the form of the key. -/
theorem firstBlock_text :
    AttestationKey.firstBlock AttestationKey.keyLabel text .noKeyInfo = .ok form := by
  decide +kernel

/-- The form is read as the key with its parameter. -/
theorem keyInfo?_form : Der.keyInfo? form = some info := by
  decide +kernel

/-- The parameter names the other curve. -/
theorem namedCurve?_info : info.algorithm.namedCurve? = some declared := by
  decide

end OtherCurve

open OtherCurve in
/-- The key of another curve is loaded as a point of P-256, and this point is loaded under the
name of the other curve and under none. -/
theorem AttestationKey.ofKeyInfo_named_curve_of_other_curve :
    ofKeyFile text = .ok (.elliptic .p256 point) ∧
    (∃ b info, Der.keyInfo? b = some info ∧ info.algorithm.namedCurve? = some declared ∧
      ofKeyInfo info = .ok (.elliptic .p256 point)) ∧
    ∃ b info, Der.keyInfo? b = some info ∧ info.algorithm.parameter = none ∧
      ofKeyInfo info = .ok (.elliptic .p256 point) := by
  obtain ⟨-, -, -, hDeclared⟩ := ofKeyInfo_named_curve point
  have hNamed : ∀ id ∈ some declared, ∃ content, Der.identifier? content = some id := by
    rintro _ ⟨⟩
    exact ⟨[0x2b, 0x81, 0x04, 0x00, 0x0a], by decide⟩
  obtain ⟨b, info, hInfo, hCurve, -, hKey⟩ := hDeclared (some declared) hNamed
  obtain ⟨b', info', hInfo', -, hNone, hKey'⟩ := hDeclared none nofun
  exact ⟨ofKeyFile_text, ⟨b, info, hInfo, hCurve, hKey⟩, b', info', hInfo', hNone rfl, hKey'⟩

open OtherCurve in
/-- A key may be loaded as a point of **another curve than it declares**. -/
theorem AttestationKey.ofKeyFile_not_declared :
    ¬ ∀ (text : String) (c : Curve) (point : c.Point),
      ofKeyFile text = .ok (.elliptic c point) →
        ∃ b info, firstBlock keyLabel text .noKeyInfo = .ok b ∧ Der.keyInfo? b = some info ∧
          info.algorithm.namedCurve? = some c.identifier := by
  intro h
  obtain ⟨b, found, hBlock, hInfo, hCurve⟩ := h text .p256 point ofKeyFile_text
  obtain rfl := Except.ok.inj (firstBlock_text.symm.trans hBlock)
  obtain rfl := Option.some.inj (keyInfo?_form.symm.trans hInfo)
  rw [namedCurve?_info] at hCurve
  exact absurd hCurve (by decide)

end RemoteAttestation
