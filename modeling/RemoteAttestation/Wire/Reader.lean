import RemoteAttestation.Bytes.Basic

/-!
# Reading Wire Structures

A structure on the wire is read from front to back. A `Cursor` holds what is left of it and how
much was read; a `Reader` takes octets from the cursor and may fail. A failing reader leaves
the cursor where its last successful step left it, so a caller can see how far it came. The one
primitive is `Reader.take`, which gives exactly as many octets as it is asked for or takes
none.

## Main definitions

* `Cursor`, `Reader`: the reading position, and the monad of readers with faults of one type.
* `Reader.take`, `Reader.u8`, `Reader.u16`, `Reader.u32`, `Reader.u64`: fixed amounts.
* `Reader.sized`: a string behind its sixteen-bit length.
* `Reader.orFail`: a reader with its faults put into another type.
-/

namespace RemoteAttestation

/-- A position in a string of octets. -/
structure Cursor where
  /-- The octets that are still unread. -/
  rest : Bytes
  /-- The number of octets read so far. -/
  offset : Nat
  deriving Repr, DecidableEq

namespace Cursor

/-- The start of a string. -/
def start (data : Bytes) : Cursor :=
  ⟨data, 0⟩

/-- The number of unread octets. -/
def remaining (c : Cursor) : Nat :=
  c.rest.length

end Cursor

/-- A read that wanted more octets than were left. -/
structure Underflow where
  /-- The number of octets asked for. -/
  wanted : Nat
  /-- The position of the read. -/
  offset : Nat
  /-- The number of octets that were left there. -/
  available : Nat
  deriving Repr, DecidableEq

/-- The wording of the fault. -/
def Underflow.message (fault : Underflow) : String :=
  s!"buffer underflow: need {fault.wanted} bytes at offset {fault.offset}, " ++
    s!"only {fault.available} remaining"

/-- A **reader** of an `α` that may fail with an `ε`. The cursor survives a failure. -/
abbrev Reader (ε α : Type) := EStateM ε Cursor α

namespace Reader

/-- The next `n` octets. When fewer are left, none is taken. -/
def take (n : Nat) : Reader Underflow Bytes := fun c =>
  if n ≤ c.remaining then .ok (c.rest.take n) ⟨c.rest.drop n, c.offset + n⟩
  else .error ⟨n, c.offset, c.remaining⟩ c

/-- The next octet. -/
def u8 : Reader Underflow UInt8 := do
  return UInt8.ofNat (← take 1).value

/-- The next two octets as an integer. -/
def u16 : Reader Underflow UInt16 := do
  return UInt16.ofNat (← take 2).value

/-- The next four octets as an integer. -/
def u32 : Reader Underflow UInt32 := do
  return UInt32.ofNat (← take 4).value

/-- The next eight octets as an integer. -/
def u64 : Reader Underflow UInt64 := do
  return UInt64.ofNat (← take 8).value

/-- A string that stands behind its length in two octets. When the string is cut short, only
the length is taken. -/
def sized : Reader Underflow Bytes := do
  take (← u16).toNat

/-- The number of unread octets. -/
def remaining {ε : Type} : Reader ε Nat := fun c =>
  .ok c.remaining c

/-- The number of octets read so far. -/
def offset {ε : Type} : Reader ε Nat := fun c =>
  .ok c.offset c

/-- The same reader with its faults put into another type. -/
def orFail {ε ε' α : Type} (reader : Reader ε α) (fault : ε → ε') : Reader ε' α :=
  EStateM.adaptExcept fault reader

/-- The reader that takes nothing and gives a known result or fault. -/
def ofExcept {ε α : Type} (result : Except ε α) : Reader ε α := fun c =>
  match result with
  | .ok value => .ok value c
  | .error fault => .error fault c

/-- What a reader makes of a whole string, whether or not it reads to its end. -/
def parse {ε α : Type} (reader : Reader ε α) (data : Bytes) : Except ε α :=
  match reader (Cursor.start data) with
  | .ok value _ => .ok value
  | .error fault _ => .error fault

end Reader

end RemoteAttestation
