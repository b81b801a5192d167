import RemoteAttestation.Bytes.Basic

/-!
# Writing Wire Structures

The wire forms of the basic values. A structure is the concatenation of the forms of its
fields, so writing needs no state: `Wire.u16 a ++ Wire.sized b` is a field of two octets and a
string behind its length. A length that does not fit in its field is written modulo the field's
range.

## Main definitions

* `Wire.u8`, `Wire.u16`, `Wire.u32`, `Wire.u64`: integers, most significant octet first.
* `Wire.sized`: a string behind its sixteen-bit length.
-/

namespace RemoteAttestation.Wire

/-- An integer of one octet. -/
def u8 (n : UInt8) : Bytes :=
  [n]

/-- An integer of two octets. -/
def u16 (n : UInt16) : Bytes :=
  Bytes.ofNat 2 n.toNat

/-- An integer of four octets. -/
def u32 (n : UInt32) : Bytes :=
  Bytes.ofNat 4 n.toNat

/-- An integer of eight octets. -/
def u64 (n : UInt64) : Bytes :=
  Bytes.ofNat 8 n.toNat

/-- A string behind its length in two octets. -/
def sized (b : Bytes) : Bytes :=
  Bytes.ofNat 2 b.length ++ b

end RemoteAttestation.Wire
