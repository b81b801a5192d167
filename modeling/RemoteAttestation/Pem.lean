import RemoteAttestation.Bytes.Base64
import RemoteAttestation.Text.Blank

/-!
# PEM Blocks

A key file may hold several blocks of Base64 text, each between a line that begins it and a
line that ends it; both lines carry the block's label. Other lines, blocks of other labels
among them, may stand before, between and after. A marker counts wherever it stands in its
line, and a line with both counts as a beginning. A block that is begun again before its end
starts afresh.

## Main definitions

* `Pem.beginMarker`, `Pem.endMarker`: the markers of a label.
* `Pem.blocks`: the contents of all blocks of a label.
-/

namespace RemoteAttestation

/-- Why the blocks of a label cannot be read. -/
inductive PemFault where
  /-- A block of the label ends that was not begun. -/
  | notBegun (label : String)
  /-- The text ends inside a block of the label. -/
  | unterminated (label : String)
  /-- The lines of a block are not Base64 text. -/
  | notBase64
  deriving Repr, DecidableEq

namespace Pem

/-- The marker that begins a block. -/
def beginMarker (label : String) : String :=
  s!"-----BEGIN {label}-----"

/-- The marker that ends a block. -/
def endMarker (label : String) : String :=
  s!"-----END {label}-----"

end Pem

/-- The wording of a fault. -/
def PemFault.message : PemFault → String
  | notBegun label => s!"{Pem.endMarker label} without {Pem.beginMarker label}"
  | unterminated label => s!"unterminated {label} block"
  | notBase64 => "Invalid base64"

namespace Pem

/-- What a line is to the blocks of a label. -/
inductive LineKind where
  | begins
  | ends
  | other
  deriving Repr, DecidableEq

/-- The kind of a line. -/
def lineKind (label : String) (line : List Char) : LineKind :=
  if Text.occursIn (beginMarker label).toList line then .begins
  else if Text.occursIn (endMarker label).toList line then .ends
  else .other

/-- The contents of the blocks in some lines. `body` holds the text of the block that is open,
if one is. -/
def blocksFrom (label : String) (body : Option (List Char)) :
    List (List Char) → Except PemFault (List Bytes)
  | [] => if body.isSome then .error (.unterminated label) else .ok []
  | line :: rest =>
    match lineKind label line, body with
    | .begins, _ => blocksFrom label (some []) rest
    | .ends, none => .error (.notBegun label)
    | .ends, some text =>
      match Base64.decode text with
      | none => .error .notBase64
      | some content => (content :: ·) <$> blocksFrom label none rest
    | .other, body => blocksFrom label (body.map (· ++ Text.trim line)) rest

/-- The **contents** of all blocks of a label, in the order of the text. -/
def blocks (label : String) (text : String) : Except PemFault (List Bytes) :=
  blocksFrom label none (Text.lines text.toList)

end Pem

end RemoteAttestation
