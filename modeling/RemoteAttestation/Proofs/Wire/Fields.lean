import RemoteAttestation.Proofs.Wire.Reading

/-!
# Structures as Fields

What goes over the wire is one field after the other, each of one of six kinds: integers of
four widths, octets as they are, and a string behind its length. The kind of a field says how
to read it back, and for octets as they are it has to say how many (`FieldKind`). A structure
is a list of fields: it is written by writing them in order, and read by reading their kinds in
order.

Reading a kind takes just what a field of the kind is written as (`Reader.accepts_read`), so
the fields are taken one after the other, each where the one before it ends. The only field
that is not read back is a string whose length has no place in its two octets (`Field.Fits`).

## Main results

* `Reader.accepts_read`, `Reader.accepts_readAll`: what is read as a field, and as a list of them.
* `Reader.reads_write_iff`: which fields are read back.
* `Reader.readAll_writeAll`: what is written in order is read back in order.
-/

namespace RemoteAttestation

/-- The **kinds** of fields. -/
inductive FieldKind where
  /-- An integer of one octet. -/
  | u8
  /-- An integer of two octets. -/
  | u16
  /-- An integer of four octets. -/
  | u32
  /-- An integer of eight octets. -/
  | u64
  /-- So many octets as they are. -/
  | octets (n : Nat)
  /-- A string behind its length in two octets. -/
  | sized
  deriving Repr, DecidableEq

/-- A **field**: a value of one of the kinds. -/
inductive Field where
  /-- An integer of one octet. -/
  | u8 (n : UInt8)
  /-- An integer of two octets. -/
  | u16 (n : UInt16)
  /-- An integer of four octets. -/
  | u32 (n : UInt32)
  /-- An integer of eight octets. -/
  | u64 (n : UInt64)
  /-- Octets as they are. -/
  | octets (b : Bytes)
  /-- A string behind its length in two octets. -/
  | sized (b : Bytes)
  deriving Repr, DecidableEq

namespace Field

/-- The kind of a field. That of octets as they are has their number. -/
def kind : Field → FieldKind
  | u8 _ => .u8
  | u16 _ => .u16
  | u32 _ => .u32
  | u64 _ => .u64
  | octets b => .octets b.length
  | sized _ => .sized

/-- The octets that a field is written as. -/
def write : Field → Bytes
  | u8 n => Wire.u8 n
  | u16 n => Wire.u16 n
  | u32 n => Wire.u32 n
  | u64 n => Wire.u64 n
  | octets b => b
  | sized b => Wire.sized b

/-- A field **fits** when the length in front of it, if there is one, is not cut. -/
def Fits : Field → Prop
  | sized b => b.length < 65536
  | _ => True

instance : DecidablePred Fits
  | sized b => inferInstanceAs (Decidable (b.length < 65536))
  | u8 _ | u16 _ | u32 _ | u64 _ | octets _ => .isTrue trivial

/-- The fields of a structure, **written** one after the other. -/
def writeAll (fields : List Field) : Bytes :=
  fields.flatMap write

end Field

namespace FieldKind

/-- The **reader** of a kind of field. -/
def read : FieldKind → Reader Underflow Field
  | u8 => do return .u8 (← Reader.u8)
  | u16 => do return .u16 (← Reader.u16)
  | u32 => do return .u32 (← Reader.u32)
  | u64 => do return .u64 (← Reader.u64)
  | octets n => do return .octets (← Reader.take n)
  | sized => do return .sized (← Reader.sized)

/-- The fields of a structure, **read** one after the other. -/
def readAll (kinds : List FieldKind) : Reader Underflow (List Field) :=
  kinds.mapM read

end FieldKind

namespace Reader

variable {ε α β : Type}

/-- A value that is made of what was read. -/
theorem Accepts.map {reader : Reader ε α} {g : Grammar α} (h : Accepts reader g) (f : α → β) :
    Accepts (do return f (← reader)) fun b y => ∃ x, g b x ∧ f x = y := by
  refine (h.bind fun x => accepts_pure (f x)).congr fun b y => ?_
  constructor
  · rintro ⟨x, first, second, rfl, hG, rfl, rfl⟩
    exact ⟨x, by rwa [List.append_nil], rfl⟩
  · rintro ⟨x, hG, rfl⟩
    exact ⟨x, b, [], (List.append_nil b).symm, hG, rfl, rfl⟩

/-- **What is read as a field** of a kind is what such a field is written as. -/
theorem accepts_read (kind : FieldKind) :
    Accepts kind.read fun b field => b = field.write ∧ field.kind = kind ∧ field.Fits := by
  cases kind with
  | u8 =>
      refine (accepts_u8.map Field.u8).congr fun b field => ?_
      cases field <;> simp [Grammar.written, Field.write, Field.kind, Field.Fits]
  | u16 =>
      refine (accepts_u16.map Field.u16).congr fun b field => ?_
      cases field <;> simp [Grammar.written, Field.write, Field.kind, Field.Fits]
  | u32 =>
      refine (accepts_u32.map Field.u32).congr fun b field => ?_
      cases field <;> simp [Grammar.written, Field.write, Field.kind, Field.Fits]
  | u64 =>
      refine (accepts_u64.map Field.u64).congr fun b field => ?_
      cases field <;> simp [Grammar.written, Field.write, Field.kind, Field.Fits]
  | octets n =>
      refine ((accepts_take n).map Field.octets).congr fun b field => ?_
      constructor
      · rintro ⟨x, ⟨rfl, rfl⟩, rfl⟩
        exact ⟨rfl, rfl, trivial⟩
      · rintro ⟨rfl, hKind, -⟩
        cases field with
        | octets b => exact ⟨b, ⟨rfl, FieldKind.octets.inj hKind⟩, rfl⟩
        | _ => cases hKind
  | sized =>
      refine (accepts_sized.map Field.sized).congr fun b field => ?_
      cases field <;> simp [Field.write, Field.kind, Field.Fits]

/-- **Which fields are read back**: those that fit. -/
theorem reads_write_iff {field : Field} : Reads field.kind.read field.write field ↔ field.Fits := by
  have hAccepts := accepts_read field.kind
  constructor
  · intro hReads
    obtain ⟨b, -, -, -, -, hFits⟩ := (hAccepts _ _ _).mp (hReads [] 0)
    exact hFits
  · intro hFits
    exact hAccepts.reads ⟨rfl, rfl, hFits⟩

/-- **What is read as a list of fields** of some kinds is what such fields are written as. -/
theorem accepts_readAll (kinds : List FieldKind) :
    Accepts (FieldKind.readAll kinds) fun b fields =>
      b = Field.writeAll fields ∧ fields.map Field.kind = kinds ∧ ∀ field ∈ fields, field.Fits := by
  induction kinds with
  | nil =>
      refine (accepts_pure []).congr fun b fields => ?_
      constructor
      · rintro ⟨rfl, rfl⟩
        exact ⟨rfl, rfl, nofun⟩
      · rintro ⟨rfl, hKinds, -⟩
        obtain rfl := List.map_eq_nil_iff.mp hKinds
        exact ⟨rfl, rfl⟩
  | cons kind kinds ih =>
      rw [FieldKind.readAll, List.mapM_cons]
      refine ((accepts_read kind).bind fun field => ih.map (field :: ·)).congr fun b fields => ?_
      constructor
      · rintro ⟨field, first, second, rfl, ⟨rfl, rfl, hFits⟩, rest, ⟨rfl, rfl, hRest⟩, rfl⟩
        exact ⟨rfl, rfl, List.forall_mem_cons.mpr ⟨hFits, hRest⟩⟩
      · rintro ⟨rfl, hKinds, hFits⟩
        obtain ⟨field, rest, rfl, rfl, rfl⟩ := List.map_eq_cons_iff.mp hKinds
        obtain ⟨hField, hRest⟩ := List.forall_mem_cons.mp hFits
        exact ⟨field, field.write, Field.writeAll rest, rfl, ⟨rfl, rfl, hField⟩, rest,
          ⟨rfl, rfl, hRest⟩, rfl⟩

/-- **What is written in order is read back in order.** Behind the fields may be anything: it
is left, and the offset is the length of what was written. -/
theorem readAll_writeAll {fields : List Field} (h : ∀ field ∈ fields, field.Fits) (tail : Bytes) :
    ∃ c, FieldKind.readAll (fields.map Field.kind) (Cursor.start (Field.writeAll fields ++ tail)) =
        .ok fields c ∧
      c.offset = (Field.writeAll fields).length ∧ c.remaining = tail.length ∧ c.rest = tail := by
  have hReads := (accepts_readAll (fields.map Field.kind)).reads ⟨rfl, rfl, h⟩
  refine ⟨⟨tail, (Field.writeAll fields).length⟩, ?_, rfl, rfl, rfl⟩
  rw [Cursor.start, hReads tail 0, Nat.zero_add]

/-! ### A structure with every kind of field -/

namespace EveryKind

def fields : List Field :=
  [.u16 0x8018, .sized [1, 2, 3], .u64 7, .octets [9, 9], .u8 1, .sized [], .u32 0xFF544347]

def tail : Bytes := [5, 5]

end EveryKind

open EveryKind in
/-- The fields come back, and what follows them is left. -/
theorem readAll_writeAll_of_every_kind :
    ∃ c, FieldKind.readAll [.u16, .sized, .u64, .octets 2, .u8, .sized, .u32]
        (Cursor.start (Field.writeAll fields ++ tail)) = .ok fields c ∧
      c.offset = 24 ∧ c.remaining = 2 ∧ c.rest = tail := by
  have hFits : ∀ field ∈ fields, field.Fits := by decide
  exact readAll_writeAll hFits tail

end Reader

end RemoteAttestation
