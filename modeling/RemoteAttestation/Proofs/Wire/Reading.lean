import RemoteAttestation.Proofs.Wire.Delimited

/-!
# Reading What Was Written

A reader that accepts a grammar takes a string of it from the front of any data. Where only one
string is looked at, the grammar is not needed: the reader **reads** the string as a value
(`Reader.Reads`), whatever follows it. Strings that are read one after the other are read
together, so a written structure is read back field by field, and data that begin with a string
that is read go on in one way.

Not all that is written is read back. A reader **refuses** a string when it fails on whatever
begins with it (`Reader.Refuses`). The string is refused at the first field that is, and the
fields in front of that one are read as before (`Reader.Reads.refuses_bind`).

## Main results

* `Reader.Reads.bind`: one string after another.
* `Reader.Reads.unique`: equal data begin with one string that is read.
* `Reader.Reads.refuses_bind`: a string that is refused behind one that is read.
-/

namespace RemoteAttestation.Reader

variable {ε ε' α β : Type} {reader : Reader ε α} {f : α → Reader ε β}
  {b b' rest rest' : Bytes} {a a' : α} {y : β}

/-- A reader **reads** a string as a value when it takes just the string from the front of any
data and gives the value. -/
def Reads (reader : Reader ε α) (b : Bytes) (a : α) : Prop :=
  ∀ (rest : Bytes) (offset : Nat), reader ⟨b ++ rest, offset⟩ = .ok a ⟨rest, offset + b.length⟩

/-- A string of its grammar is read by a reader, whatever follows. -/
theorem Accepts.reads {g : Grammar α} (h : Accepts reader g) (hForm : g b a) :
    Reads reader b a := fun _ _ =>
  (h _ _ _).mpr ⟨b, rfl, rfl, hForm⟩

/-- Nothing is read for a result that is there. -/
theorem reads_pure (a : α) : Reads (pure a : Reader ε α) [] a := fun _ _ => rfl

/-- The form of its faults does not matter to what a reader reads. -/
theorem Reads.orFail (h : Reads reader b a) (fault : ε → ε') :
    Reads (reader.orFail fault) b a := fun rest offset =>
  orFail_apply_eq_ok_iff.mpr (h rest offset)

/-- One string after another is read by one reader after another. -/
theorem Reads.bind (h : Reads reader b a) (hNext : Reads (f a) b' y) :
    Reads (reader >>= f) (b ++ b') y := by
  intro rest offset
  refine bind_apply_eq_ok_iff.mpr ⟨a, _, ?_, hNext rest (offset + b.length)⟩ |>.trans ?_
  · rw [List.append_assoc]
    exact h (b' ++ rest) offset
  · rw [List.length_append, Nat.add_assoc]

/-- A reader that takes nothing, after another. -/
theorem Reads.bind_nil (h : Reads reader b a) (hNext : Reads (f a) [] y) :
    Reads (reader >>= f) b y := by
  have hBind := h.bind hNext
  rwa [List.append_nil] at hBind

/-- Equal data begin with **one** string that is read, and go on in one way. -/
theorem Reads.unique (h : Reads reader b a) (h' : Reads reader b' a')
    (hData : b ++ rest = b' ++ rest') : a = a' ∧ rest = rest' := by
  have hRead := h rest 0
  rw [hData, h' rest' 0, EStateM.Result.ok.injEq, Cursor.mk.injEq] at hRead
  exact ⟨hRead.1.symm, hRead.2.1.symm⟩

/-- A string is read to **its end** when nothing follows it. -/
theorem Reads.start (h : Reads reader b a) :
    reader (Cursor.start b) = .ok a ⟨[], b.length⟩ := by
  have hRead := h [] 0
  rwa [List.append_nil, Nat.zero_add] at hRead

/-! ### Refusals -/

/-- A reader **refuses** a string with a fault of some kind when it fails on all data that
begin with the string. -/
def Refuses (kind : ε → Prop) (reader : Reader ε α) (b : Bytes) : Prop :=
  ∀ (rest : Bytes) (offset : Nat), FailsAt kind reader ⟨b ++ rest, offset⟩

variable {kind kind' : ε → Prop}

/-- A reader that always fails refuses any string, for its own reason. -/
theorem refuses_throw {fault : ε} (h : kind fault) (b : Bytes) :
    Refuses kind (throw fault : Reader ε α) b := fun _ _ => ⟨fault, _, rfl, h⟩

/-- What is refused for one kind of fault is refused for a wider kind. -/
theorem Refuses.imp (h : Refuses kind reader b) (hKind : ∀ fault, kind fault → kind' fault) :
    Refuses kind' reader b := by
  intro rest offset
  obtain ⟨fault, c, hError, hFault⟩ := h rest offset
  exact ⟨fault, c, hError, hKind fault hFault⟩

/-- What is refused at the front is refused. -/
theorem Refuses.bind (h : Refuses kind reader b) (f : α → Reader ε β) (b' : Bytes) :
    Refuses kind (reader >>= f) (b ++ b') := by
  intro rest offset
  rw [List.append_assoc]
  exact (h (b' ++ rest) offset).bind f

/-- What is refused **behind a string that is read** is refused. -/
theorem Reads.refuses_bind (h : Reads reader b a) (hNext : Refuses kind (f a) b') :
    Refuses kind (reader >>= f) (b ++ b') := by
  intro rest offset
  obtain ⟨fault, c, hError, hFault⟩ := hNext rest (offset + b.length)
  refine ⟨fault, c, ?_, hFault⟩
  rw [List.append_assoc, bind_apply_of_ok (h (b' ++ rest) offset), hError]

/-- A string that is read, but whose value is refused. -/
theorem Reads.refuses_bind_nil (h : Reads reader b a) (hNext : Refuses kind (f a) []) :
    Refuses kind (reader >>= f) b := by
  have hBind := h.refuses_bind hNext
  rwa [List.append_nil] at hBind

/-- A condition that **stops** the reader. -/
theorem refuses_guard {p : Prop} [Decidable p] {next : Unit → Reader ε α} {fault : ε} (hp : p)
    (h : kind fault) (b : Bytes) :
    Refuses kind (if p then throw fault >>= next else next ()) b := by
  rw [if_pos hp]
  exact fun rest offset => (refuses_throw h b rest offset).bind next

/-- A condition that lets the reader **go on**. -/
theorem Refuses.guard {p : Prop} [Decidable p] {next : Unit → Reader ε α} (fault : ε) (hp : ¬ p)
    (h : Refuses kind (next ()) b) :
    Refuses kind (if p then throw fault >>= next else next ()) b := by
  rwa [if_neg hp]

end RemoteAttestation.Reader
