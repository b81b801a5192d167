import RemoteAttestation.Attestation
import RemoteAttestation.Device.Quoting
import RemoteAttestation.Json.Source

/-!
# Quote Files

What `quote` prints and `verify` reads: the nonce of the request, the attestation and the
signature in hexadecimal, and the fields of the attestation for an operator. The attester wrote
the file, so a verifier relies on nothing in it but the attestation and the signature; the
fields need only be JSON, and members with other names are passed over.

## Main definitions

* `QuoteFile`: the texts in a file.
* `QuoteFile.json`: the file of a quote.
* `QuoteFile.ofText?`: the texts in a file.
-/

namespace RemoteAttestation

/-- The texts in a quote file. -/
structure QuoteFile where
  /-- The nonce of the request. -/
  nonce : String
  /-- The attestation. -/
  attest : String
  /-- The signature. -/
  signature : String
  deriving Repr, DecidableEq

namespace QuoteFile

/-- The texts of a quote that was requested with a nonce. -/
def ofQuote (nonce : Bytes) (quote : Quote) : QuoteFile where
  nonce := Hex.encode nonce
  attest := Hex.encode quote.attestation
  signature := Hex.encode quote.signature

/-- The **file** with some texts and the fields of the attestation. -/
def json (file : QuoteFile) (attestation : Attestation) : Json :=
  .object [
    ("nonce", .string file.nonce),
    ("attest", .string file.attest),
    ("signature", .string file.signature),
    ("quote", attestation.report)]

/-- The largest number of lists and objects inside one another in a member of a file. -/
def maxDepth : Nat := 126

/-- Whether a value can stand for the fields of an attestation. -/
def isReport (value : JsonSource) : Bool :=
  value.isUsable && decide (value.depth ≤ maxDepth)

/-- The values of the members with a name. -/
def membersNamed (name : String) (members : List (String × JsonSource)) : List JsonSource :=
  (members.filter (·.1 == name)).map Prod.snd

/-- The text of the only member with a name. -/
def onlyText? (name : String) (members : List (String × JsonSource)) : Option String :=
  match membersNamed name members with
  | [value] => value.text?
  | _ => none

/-- Whether the fields of the attestation are left out, or given once. -/
def reportFits (members : List (String × JsonSource)) : Bool :=
  match membersNamed "quote" members with
  | [] => true
  | [value] => isReport value
  | _ => false

/-- The texts that the members of an object give. -/
def ofMembers? (members : List (String × JsonSource)) : Option QuoteFile := do
  let nonce ← onlyText? "nonce" members
  let attest ← onlyText? "attest" members
  let signature ← onlyText? "signature" members
  if reportFits members then some ⟨nonce, attest, signature⟩ else none

/-- The texts that the items of a list give: the three texts, and perhaps the fields. -/
def ofItems? : List JsonSource → Option QuoteFile
  | nonce :: attest :: signature :: rest => do
    let file := ⟨← nonce.text?, ← attest.text?, ← signature.text?⟩
    match rest with
    | [] => some file
    | [report] => if isReport report then some file else none
    | _ => none
  | _ => none

/-- The texts that a value gives. -/
def ofSource? : JsonSource → Option QuoteFile
  | .array items true => ofItems? items
  | value => value.members?.bind ofMembers?

/-- The **texts** in a file. -/
def ofText? (text : String) : Option QuoteFile :=
  let document := JsonDocument.ofText text
  if document.ended then ofSource? document.value else none

end QuoteFile

end RemoteAttestation
