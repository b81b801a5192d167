import RemoteAttestation.Key.Load
import RemoteAttestation.Proofs.Bytes.Text
import RemoteAttestation.Proofs.Pem.Bundle

/-!
# Keys in Bundles

A key file may be a bundle of blocks with all kinds of labels. Which of them is the key is
decided in two steps that look at the file in different ways: the marker of a certificate, or
else of a public key, is searched for in the whole text, and then the blocks with that label
are read line by line. Both must mean the same block, or the key of another one would be
trusted.

They do. In a bundle a marker stands in the text just when there is a block with its label, and
the blocks with the label are read as what they spell. So one block decides, the first
certificate or, without one, the first public key (`AttestationKey.deciding?`). What the others
hold, where they stand and how many they are does not matter.

## Main results

* `AttestationKey.begins_iff_of_bundle`: when a marker stands in a bundle.
* `AttestationKey.firstBlock_of_bundle`: the first block with a label.
* `AttestationKey.load_bundle`: the block that decides.
-/

namespace RemoteAttestation.AttestationKey

/-! ### Single blocks -/

/-- The key of the **certificate** that a string is. -/
def ofCertificate (b : Bytes) : Except KeyFault AttestationKey :=
  match Der.certificateKey? b with
  | none => .error .notACertificate
  | some info => ofKeyInfo info

/-- The **public key** that a string is. -/
def ofPublicKey (b : Bytes) : Except KeyFault AttestationKey :=
  match Der.keyInfo? b with
  | none => .error .notAKeyInfo
  | some info => ofKeyInfo info

/-- The block that **decides** which key a bundle is: the first certificate, or else the first
public key. -/
def deciding? (blocks : List (String × Bytes)) : Option (String × Bytes) :=
  (blocks.find? fun block => block.1 = certificateLabel).or
    (blocks.find? fun block => block.1 = keyLabel)

/-- The key that a block is. -/
def ofBlock (block : String × Bytes) : Except KeyFault AttestationKey :=
  if block.1 = certificateLabel then ofCertificate block.2 else ofPublicKey block.2

section

variable {text label : String} {content : Bytes} {lines : List (List Char)}
  {blocks : List (String × Bytes)}

/-! ### Blocks of a bundle -/

/-- A marker stands in the text of a bundle just when there is **a block with its label**. -/
theorem begins_iff_of_bundle (hText : Text.HasLines text.toList lines)
    (hBundle : Pem.Bundle lines blocks) (hLabel : '\n' ∉ label.toList) :
    begins label text = true ↔ Pem.contentsOf label blocks ≠ [] := by
  rw [begins, hText.occursIn_iff (Pem.beginMarker_ne_nil label)
    (Pem.feed_not_mem_beginMarker hLabel) (Pem.getLast?_beginMarker_ne label),
    ← (hBundle.armored label).exists_begins_iff]
  simp only [Text.occursIn_iff, Pem.Begins]

/-- **The first block** with a label is the first one that is read. -/
theorem firstBlock_of_bundle (hText : Text.HasLines text.toList lines)
    (hBundle : Pem.Bundle lines blocks) {others : List Bytes}
    (hFirst : Pem.contentsOf label blocks = content :: others) (missing : KeyFault) :
    firstBlock label text missing = .ok content := by
  have hHolds := (hBundle.armored label).holds
  rw [← hText.lines_eq, hFirst] at hHolds
  rw [firstBlock, Pem.blocks_eq_ok_iff.mpr hHolds]
  rfl

/-- With a certificate in the bundle, the key is that of the first one. -/
theorem load_of_certificate (hText : Text.HasLines text.toList lines)
    (hBundle : Pem.Bundle lines blocks) {others : List Bytes}
    (hFirst : Pem.contentsOf certificateLabel blocks = content :: others) :
    load (Bytes.ofText text) = ofCertificate content := by
  have hBegins : begins certificateLabel text = true := by
    rw [begins_iff_of_bundle hText hBundle (by decide), hFirst]
    exact List.cons_ne_nil _ _
  rw [load, Bytes.toText?_ofText]
  dsimp only
  rw [if_pos hBegins, ofCertificateFile, firstBlock_of_bundle hText hBundle hFirst]
  rfl

/-- Without a certificate, the key is that of the first public key. -/
theorem load_of_publicKey (hText : Text.HasLines text.toList lines)
    (hBundle : Pem.Bundle lines blocks) {others : List Bytes}
    (hNone : Pem.contentsOf certificateLabel blocks = [])
    (hFirst : Pem.contentsOf keyLabel blocks = content :: others) :
    load (Bytes.ofText text) = ofPublicKey content := by
  have hCertificate : ¬ begins certificateLabel text = true := by
    rw [begins_iff_of_bundle hText hBundle (by decide), hNone]
    exact not_not.mpr rfl
  have hBegins : begins keyLabel text = true := by
    rw [begins_iff_of_bundle hText hBundle (by decide), hFirst]
    exact List.cons_ne_nil _ _
  rw [load, Bytes.toText?_ofText]
  dsimp only
  rw [if_neg hCertificate, if_pos hBegins, ofKeyFile, firstBlock_of_bundle hText hBundle hFirst]
  rfl

/-! ### The block that decides -/

/-- The first certificate decides, whatever other blocks there are. -/
theorem deciding?_of_certificate {front tail : List (String × Bytes)}
    (hFront : ∀ block ∈ front, block.1 ≠ certificateLabel) :
    deciding? (front ++ (certificateLabel, content) :: tail) =
      some (certificateLabel, content) := by
  have hNone : front.find? (fun block => block.1 = certificateLabel) = none := by
    simpa using hFront
  rw [deciding?, List.find?_append, hNone, List.find?_cons_of_pos (by simp)]
  rfl

/-- The first public key decides where there is no certificate. -/
theorem deciding?_of_publicKey {front tail : List (String × Bytes)}
    (hFront : ∀ block ∈ front, block.1 ≠ keyLabel)
    (hNone : ∀ block ∈ front ++ (keyLabel, content) :: tail, block.1 ≠ certificateLabel) :
    deciding? (front ++ (keyLabel, content) :: tail) = some (keyLabel, content) := by
  have hCertificate : (front ++ (keyLabel, content) :: tail).find?
      (fun block => block.1 = certificateLabel) = none := by
    rw [List.find?_eq_none]
    intro block hBlock
    simpa using hNone block hBlock
  have hKey : front.find? (fun block => block.1 = keyLabel) = none := by
    simpa using hFront
  rw [deciding?, hCertificate, List.find?_append, hKey, List.find?_cons_of_pos (by simp)]
  rfl

/-- The first block with a label has the first of their contents. -/
theorem contentsOf_of_find? {block : String × Bytes}
    (h : blocks.find? (fun block => block.1 = label) = some block) :
    block.1 = label ∧ ∃ others, Pem.contentsOf label blocks = block.2 :: others := by
  obtain ⟨hLabel, front, tail, rfl, hFront⟩ := List.find?_eq_some_iff_append.mp h
  obtain ⟨own, content⟩ := block
  obtain rfl : own = label := of_decide_eq_true hLabel
  have hNil : Pem.contentsOf own front = [] := by
    rw [Pem.contentsOf_eq_nil_iff]
    simpa using hFront
  rw [Pem.contentsOf_append, hNil, List.nil_append, Pem.contentsOf_cons_self]
  exact ⟨rfl, _, rfl⟩

/-- A bundle is loaded as **the block that decides**. -/
theorem load_of_deciding (hText : Text.HasLines text.toList lines)
    (hBundle : Pem.Bundle lines blocks) {block : String × Bytes}
    (h : deciding? blocks = some block) : load (Bytes.ofText text) = ofBlock block := by
  rcases Option.or_eq_some_iff.mp h with hCertificate | ⟨hNone, hKey⟩
  · obtain ⟨hLabel, others, hFirst⟩ := contentsOf_of_find? hCertificate
    rw [ofBlock, if_pos hLabel]
    exact load_of_certificate hText hBundle hFirst
  · obtain ⟨hLabel, others, hFirst⟩ := contentsOf_of_find? hKey
    have hNil : Pem.contentsOf certificateLabel blocks = [] := by
      rw [Pem.contentsOf_eq_nil_iff]
      simpa using hNone
    have hOther : ¬ block.1 = certificateLabel := by
      rw [hLabel]
      decide
    rw [ofBlock, if_neg hOther]
    exact load_of_publicKey hText hBundle hNil hFirst

/-- **The block that decides** is the first certificate of a bundle, whatever the other blocks
are. Without a certificate it is the first public key. A bundle in which the same block
decides, with any others added to it, taken from it or moved, is loaded as the same key, or
refused for the same fault. -/
theorem load_bundle (hText : Text.HasLines text.toList lines)
    (hBundle : Pem.Bundle lines blocks) :
    (∀ front content tail, blocks = front ++ (certificateLabel, content) :: tail →
      (∀ block ∈ front, block.1 ≠ certificateLabel) →
        load (Bytes.ofText text) = ofCertificate content) ∧
    (∀ front content tail, blocks = front ++ (keyLabel, content) :: tail →
      (∀ block ∈ front, block.1 ≠ keyLabel) → (∀ block ∈ blocks, block.1 ≠ certificateLabel) →
        load (Bytes.ofText text) = ofPublicKey content) ∧
    ∀ (text' : String) (lines' : List (List Char)) (blocks' : List (String × Bytes)),
      Text.HasLines text'.toList lines' → Pem.Bundle lines' blocks' →
      deciding? blocks ≠ none → deciding? blocks' = deciding? blocks →
        load (Bytes.ofText text') = load (Bytes.ofText text) := by
  refine ⟨?_, ?_, ?_⟩
  · rintro front content tail rfl hFront
    exact load_of_deciding hText hBundle (deciding?_of_certificate hFront)
  · rintro front content tail rfl hFront hNone
    exact load_of_deciding hText hBundle (deciding?_of_publicKey hFront hNone)
  · intro text' lines' blocks' hText' hBundle' hSome hSame
    obtain ⟨block, hBlock⟩ := Option.ne_none_iff_exists'.mp hSome
    rw [load_of_deciding hText hBundle hBlock,
      load_of_deciding hText' hBundle' (hSame.trans hBlock)]

end

/-! ### Two files with the same blocks -/

namespace TwoKinds

/-- A certificate. -/
def certificate : Bytes :=
  (Base64.decode ("MIGnMIGNoAMCAQICAQEwCgYIKoZIzj0EAwIwDTELMAkGA1UEAwwCQUswHhcNMjQw" ++
    "MTAxMDAwMDAwWhcNMzQwMTAxMDAwMDAwWjANMQswCQYDVQQDDAJBSzA5MBMGByqGSM49AgEGCCqG" ++
    "SM49AwEHAyIAAgBVQ4lK89AO19dAq9vXXJawaHe3h9tfcO6ni5Co18AKMAoGCCqGSM49BAMCAwkA" ++
    "AAAAAAAAAAA=").toList).getD []

/-- A public key. -/
def publicKey : Bytes :=
  (Base64.decode ("MDkwEwYHKoZIzj0CAQYIKoZIzj0DAQcDIgADfPJ7GI0DT36KUjgDBLUaw8CJaeJ38hs1pgtI" ++
    "/EdmmXg=").toList).getD []

/-- The key of the certificate. -/
def subject : Curve.Point .p256 where
  x := 0x005543894af3d00ed7d740abdbd75c96b06877b787db5f70eea78b90a8d7c00a
  y := 0xbb4c85a3d8ea29efaafa24406912dd84d5b14dc32bf656ef6c6bd58a5d943f92
  onCurve := by decide +kernel

/-- The point of the public key. -/
def point : Curve.Point .p256 where
  x := 0x7cf27b188d034f7e8a52380304b51ac3c08969e277f21b35a60b48fc47669978
  y := 0x07775510db8ed040293d9ac69f7430dbba7dade63ce982299e04b79d227873d1
  onCurve := by decide +kernel

/-- The certificate holds a key on P-256. -/
theorem ofCertificate_certificate : ofCertificate certificate = .ok (.elliptic .p256 subject) := by
  decide +kernel

/-- The public key is another key on P-256. -/
theorem ofPublicKey_publicKey : ofPublicKey publicKey = .ok (.elliptic .p256 point) := by
  decide +kernel

/-- The public key, a block that is not for loading, the certificate, and one that cannot be
read. -/
def blocks : List (String × Bytes) :=
  [(keyLabel, publicKey), ("RSA PUBLIC KEY", [0]), (certificateLabel, certificate),
    (certificateLabel, [0])]

/-- The certificate in front of the public key. -/
def moved : List (String × Bytes) :=
  [(certificateLabel, certificate), (keyLabel, publicKey)]

/-- The blocks that are no certificates. -/
def keys : List (String × Bytes) :=
  [("RSA PUBLIC KEY", [0]), (keyLabel, publicKey), (keyLabel, [0])]

/-- The labels are plain, so no marker of one is taken for that of another. -/
theorem plainLabel (label : String) (h : label ∈ ["RSA PUBLIC KEY", keyLabel, certificateLabel]) :
    Pem.PlainLabel label ∧ '\n' ∉ label.toList := by
  have hAll : ∀ label ∈ ["RSA PUBLIC KEY", keyLabel, certificateLabel],
      Text.occursIn Pem.hyphens label.toList = false ∧ label.toList.getLast? ≠ some '-' ∧
        '\n' ∉ label.toList := by decide
  obtain ⟨hRun, hLast, hFeed⟩ := hAll label h
  refine ⟨⟨?_, hLast⟩, hFeed⟩
  rw [← Text.occursIn_iff, hRun]
  exact Bool.false_ne_true

/-- Blocks with these labels, in a file. -/
theorem bundle_write (blocks : List (String × Bytes))
    (h : ∀ block ∈ blocks, block.1 ∈ ["RSA PUBLIC KEY", keyLabel, certificateLabel]) :
    Text.HasLines (Pem.write blocks).toList (blocks.flatMap Pem.writeBlock) ∧
      Pem.Bundle (blocks.flatMap Pem.writeBlock) blocks :=
  ⟨Pem.hasLines_write fun block hBlock => (plainLabel block.1 (h block hBlock)).2,
    Pem.bundle_write fun block hBlock => (plainLabel block.1 (h block hBlock)).1⟩

/-- The certificate decides, though it is the last block. -/
theorem deciding?_blocks : deciding? blocks = some (certificateLabel, certificate) :=
  rfl

/-- In another order it decides as well. -/
theorem deciding?_moved : deciding? moved = some (certificateLabel, certificate) :=
  rfl

end TwoKinds

open TwoKinds in
/-- The certificate is loaded from either file, and the public key from the one without it. -/
theorem load_bundle_of_two_kinds :
    load (Bytes.ofText (Pem.write blocks)) = .ok (.elliptic .p256 subject) ∧
    load (Bytes.ofText (Pem.write moved)) = .ok (.elliptic .p256 subject) ∧
    load (Bytes.ofText (Pem.write keys)) = .ok (.elliptic .p256 point) := by
  obtain ⟨hText, hBundle⟩ := bundle_write blocks (by decide)
  obtain ⟨hMovedText, hMoved⟩ := bundle_write moved (by decide)
  obtain ⟨hKeysText, hKeys⟩ := bundle_write keys (by decide)
  obtain ⟨hFirst, -, hSame⟩ := load_bundle hText hBundle
  obtain ⟨-, hKey, -⟩ := load_bundle hKeysText hKeys
  have hBlocks : load (Bytes.ofText (Pem.write blocks)) = .ok (.elliptic .p256 subject) := by
    rw [hFirst [(keyLabel, publicKey), ("RSA PUBLIC KEY", [0])] certificate
      [(certificateLabel, [0])] rfl (by decide), ofCertificate_certificate]
  refine ⟨hBlocks, ?_, ?_⟩
  · rw [hSame _ _ _ hMovedText hMoved (by simp [deciding?_blocks])
      (deciding?_moved.trans deciding?_blocks.symm), hBlocks]
  · rw [hKey [("RSA PUBLIC KEY", [0])] publicKey [(keyLabel, [0])] rfl (by decide) (by decide),
      ofPublicKey_publicKey]

end RemoteAttestation.AttestationKey
