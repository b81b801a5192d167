import RemoteAttestation.Proofs.Wire.Grammar

/-!
# Readers That Find Their Own End

What a reader takes should decide where it ends. Then data that are cut inside it are
recognised as cut, wherever the cut is, and data that go on behind it are read no differently.
A reader is **delimited** when this holds whenever it succeeds (`Reader.Delimited`): with
anything else behind the octets that it took it gives the same value, and with only a part of
them it fails for want of octets.

The property passes from readers to sequences of readers (`Reader.Delimited.bind`): a cut falls
into the first reader, or the first reader succeeds as before and the cut falls into the
second. A reader that must come to the end of the data is **exact** (`Reader.Exact`): it does
not succeed on a part of the data that it accepts, nor on the data with something behind them.

## Main results

* `Reader.delimited_take`, `Reader.Delimited.bind`: reading octets, and one reader after another.
* `Reader.Exact.bind`, `Reader.exact_end`: readers that come to the end.
* `Reader.Exact.parse_append`, `Reader.Exact.parse_of_properPrefix`: what becomes of data that are
  lengthened or cut.
-/

namespace RemoteAttestation

/-- A string is a **proper prefix** of another when the other begins with it and goes on. -/
def Bytes.ProperPrefix (p b : Bytes) : Prop :=
  p <+: b ∧ p ≠ b

namespace Bytes.ProperPrefix

/-- A proper prefix is shorter. -/
theorem length_lt {p b : Bytes} (h : p.ProperPrefix b) : p.length < b.length :=
  Nat.lt_of_not_le fun hLe => h.2 (h.1.eq_of_length_le hLe)

/-- Nothing is a proper prefix of no octets. -/
theorem not_nil {p : Bytes} : ¬ p.ProperPrefix [] := fun h => Nat.not_lt_zero _ h.length_lt

/-- A cut in a string of two parts is in the first part, or in the second behind the whole
first part. -/
theorem append_cases {p first second : Bytes} (h : p.ProperPrefix (first ++ second)) :
    p.ProperPrefix first ∨ ∃ t : Bytes, p = first ++ t ∧ t.ProperPrefix second := by
  obtain ⟨⟨rest, hRest⟩, hNe⟩ := h
  rcases List.append_eq_append_iff.mp hRest with ⟨s, hFirst, -⟩ | ⟨t, rfl, hSecond⟩
  · by_cases hEq : p = first
    · refine .inr ⟨[], by rw [hEq, List.append_nil], List.nil_prefix, ?_⟩
      rintro rfl
      exact hNe (by rw [hEq, List.append_nil])
    · exact .inl ⟨⟨s, hFirst.symm⟩, hEq⟩
  · refine .inr ⟨t, rfl, ⟨rest, hSecond.symm⟩, ?_⟩
    rintro rfl
    exact hNe rfl

end Bytes.ProperPrefix

namespace Reader

variable {ε ε' α β : Type} {short : ε → Prop} {long : Nat → ε}

/-- Behind a reader that succeeds the next one goes on where it has stopped. -/
theorem bind_apply_of_ok {reader : Reader ε α} {f : α → Reader ε β} {c c' : Cursor} {a : α}
    (h : reader c = .ok a c') : (reader >>= f) c = f a c' := by
  change EStateM.bind reader f c = _
  rw [EStateM.bind, h]

/-- Behind a reader that fails nothing is read. -/
theorem bind_apply_of_error {reader : Reader ε α} {f : α → Reader ε β} {c c' : Cursor} {fault : ε}
    (h : reader c = .error fault c') : (reader >>= f) c = .error fault c' := by
  change EStateM.bind reader f c = _
  rw [EStateM.bind, h]

/-- A reader **fails** at a cursor with a fault of some kind. -/
def FailsAt (short : ε → Prop) (reader : Reader ε α) (c : Cursor) : Prop :=
  ∃ fault c', reader c = .error fault c' ∧ short fault

/-- A reader that fails for want of octets does so in front of any other. -/
theorem FailsAt.bind {reader : Reader ε α} {c : Cursor} (h : FailsAt short reader c)
    (f : α → Reader ε β) : FailsAt short (reader >>= f) c := by
  obtain ⟨fault, c', hError, hShort⟩ := h
  exact ⟨fault, c', bind_apply_of_error hError, hShort⟩

/-- A cut in what two readers take falls into the first, or it falls into the second and the
first succeeds as before. -/
theorem failsAt_bind_of_properPrefix {reader : Reader ε α} {f : α → Reader ε β} {x : α}
    {first second : Bytes} {offset offset' : Nat}
    (hAnyRest : ∀ rest, reader ⟨first ++ rest, offset⟩ = .ok x ⟨rest, offset'⟩)
    (hFirst : ∀ p : Bytes, p.ProperPrefix first → FailsAt short reader ⟨p, offset⟩)
    (hSecond : ∀ p : Bytes, p.ProperPrefix second → FailsAt short (f x) ⟨p, offset'⟩) {p : Bytes}
    (hp : p.ProperPrefix (first ++ second)) : FailsAt short (reader >>= f) ⟨p, offset⟩ := by
  rcases hp.append_cases with hp | ⟨t, rfl, ht⟩
  · exact (hFirst p hp).bind f
  · obtain ⟨fault, c, hError, hShort⟩ := hSecond t ht
    exact ⟨fault, c, (bind_apply_of_ok (hAnyRest t)).trans hError, hShort⟩

/-! ### Delimited readers -/

/-- A reader is **delimited** when, wherever it succeeds, the octets that it takes decide its
value and its end: whatever follows them makes no difference, and a proper prefix of them is
too short. -/
def Delimited (short : ε → Prop) (reader : Reader ε α) : Prop :=
  ∀ ⦃c c' : Cursor⦄ ⦃a : α⦄, reader c = .ok a c' → ∃ b, c.rest = b ++ c'.rest ∧
    (∀ rest, reader ⟨b ++ rest, c.offset⟩ = .ok a ⟨rest, c'.offset⟩) ∧
      ∀ p : Bytes, p.ProperPrefix b → FailsAt short reader ⟨p, c.offset⟩

/-- A number of octets ends where it is reached. -/
theorem delimited_take (n : Nat) : Delimited (fun _ => True) (take n) := by
  intro c c' x h
  obtain ⟨b, hRest, hOffset, rfl, hLength⟩ := (accepts_take n c c' x).mp h
  refine ⟨b, hRest, fun rest => ?_, fun p hp => ?_⟩
  · exact (accepts_take n _ _ _).mpr ⟨b, rfl, hOffset, rfl, hLength⟩
  · have hShort : ¬ n ≤ (Cursor.mk p c.offset).remaining :=
      Nat.not_le.mpr (Nat.lt_of_lt_of_eq hp.length_lt hLength)
    exact ⟨_, _, if_neg hShort, trivial⟩

/-- A reader that reads nothing needs nothing. -/
theorem delimited_pure (a : α) : Delimited short (pure a : Reader ε α) := by
  intro c c' x h
  obtain ⟨rfl, rfl⟩ := pure_apply_eq_ok_iff.mp h
  exact ⟨[], rfl, fun rest => rfl, fun p hp => absurd hp Bytes.ProperPrefix.not_nil⟩

/-- A reader that always fails never needs more. -/
theorem delimited_throw (fault : ε) : Delimited short (throw fault : Reader ε α) := by
  intro c c' a h
  change EStateM.Result.error fault c = _ at h
  cases h

/-- A result or a fault that is known needs nothing. -/
theorem delimited_ofExcept (result : Except ε α) : Delimited short (ofExcept result) := by
  cases result with
  | ok a => exact delimited_pure a
  | error fault => exact delimited_throw fault

/-- **One delimited reader after another** is delimited. -/
theorem Delimited.bind {reader : Reader ε α} {f : α → Reader ε β} (h : Delimited short reader)
    (hNext : ∀ a, Delimited short (f a)) : Delimited short (reader >>= f) := by
  intro c c'' y hRun
  obtain ⟨x, c', hFirst, hSecond⟩ := bind_apply_eq_ok_iff.mp hRun
  obtain ⟨first, hRest, hAnyRest, hCut⟩ := h hFirst
  obtain ⟨second, hRest', hAnyRest', hCut'⟩ := hNext x hSecond
  refine ⟨first ++ second, ?_, fun rest => ?_, fun p hp =>
    failsAt_bind_of_properPrefix hAnyRest hCut hCut' hp⟩
  · rw [hRest, hRest', List.append_assoc]
  · rw [List.append_assoc, bind_apply_of_ok (hAnyRest _), hAnyRest']

/-- A condition between two readers. -/
theorem Delimited.guard {p : Prop} [Decidable p] {next : Unit → Reader ε α} (fault : ε)
    (h : Delimited short (next ())) :
    Delimited short (if p then throw fault >>= next else next ()) := by
  by_cases hp : p
  · rw [if_pos hp]
    exact (delimited_throw fault).bind fun _ => h
  · rwa [if_neg hp]

/-- Faults of another type, of which those for want of octets have to be told apart again. -/
theorem Delimited.orFail {reader : Reader ε α} (h : Delimited short reader) {fault : ε → ε'}
    {short' : ε' → Prop} (hFault : ∀ e, short e → short' (fault e)) :
    Delimited short' (reader.orFail fault) := by
  intro c c' a hRun
  obtain ⟨b, hRest, hAnyRest, hCut⟩ := h (orFail_apply_eq_ok_iff.mp hRun)
  refine ⟨b, hRest, fun rest => orFail_apply_eq_ok_iff.mpr (hAnyRest rest), fun p hp => ?_⟩
  obtain ⟨e, c'', hError, hShort⟩ := hCut p hp
  refine ⟨fault e, c'', ?_, hFault e hShort⟩
  rw [Reader.orFail, EStateM.adaptExcept, hError]

/-- An octet is one octet. -/
theorem delimited_u8 : Delimited (fun _ => True) u8 :=
  (delimited_take 1).bind fun _ => delimited_pure _

theorem delimited_u16 : Delimited (fun _ => True) u16 :=
  (delimited_take 2).bind fun _ => delimited_pure _

theorem delimited_u32 : Delimited (fun _ => True) u32 :=
  (delimited_take 4).bind fun _ => delimited_pure _

theorem delimited_u64 : Delimited (fun _ => True) u64 :=
  (delimited_take 8).bind fun _ => delimited_pure _

/-- A string behind its length ends where the length says. -/
theorem delimited_sized : Delimited (fun _ => True) sized :=
  delimited_u16.bind fun n => delimited_take n.toNat

/-! ### Exact readers -/

/-- A reader is **exact** when, wherever it succeeds, it needs just the data that are there:
with more it fails and counts what is too much, and a proper prefix is too short. -/
def Exact (short : ε → Prop) (long : Nat → ε) (reader : Reader ε α) : Prop :=
  ∀ ⦃c c' : Cursor⦄ ⦃a : α⦄, reader c = .ok a c' →
    (∀ x ≠ [], ∃ c'', reader ⟨c.rest ++ x, c.offset⟩ = .error (long x.length) c'') ∧
      ∀ p : Bytes, p.ProperPrefix c.rest → FailsAt short reader ⟨p, c.offset⟩

/-- A delimited reader before an exact one. -/
theorem Exact.bind {reader : Reader ε α} {f : α → Reader ε β} (h : Delimited short reader)
    (hNext : ∀ a, Exact short long (f a)) : Exact short long (reader >>= f) := by
  intro c c'' y hRun
  obtain ⟨x, c', hFirst, hSecond⟩ := bind_apply_eq_ok_iff.mp hRun
  obtain ⟨first, hRest, hAnyRest, hCut⟩ := h hFirst
  obtain ⟨hMore, hCut'⟩ := hNext x hSecond
  rw [hRest]
  refine ⟨fun more hNe => ?_, fun p hp => failsAt_bind_of_properPrefix hAnyRest hCut hCut' hp⟩
  obtain ⟨c₁, hError⟩ := hMore more hNe
  exact ⟨c₁, by rw [List.append_assoc, bind_apply_of_ok (hAnyRest _), hError]⟩

/-- A reader that always fails accepts no string, so there is none to cut. -/
theorem exact_throw (fault : ε) : Exact short long (throw fault : Reader ε α) := by
  intro c c' a h
  change EStateM.Result.error fault c = _ at h
  cases h

/-- A condition before an exact reader. -/
theorem Exact.guard {p : Prop} [Decidable p] {next : Unit → Reader ε α} (fault : ε)
    (h : Exact short long (next ())) :
    Exact short long (if p then throw fault >>= next else next ()) := by
  by_cases hp : p
  · rw [if_pos hp]
    exact Exact.bind (delimited_throw fault) fun _ => h
  · rwa [if_neg hp]

/-- The check that nothing is left is exact. -/
theorem exact_end (a : α) : Exact short long (do
    let trailing ← remaining
    if trailing ≠ 0 then throw (long trailing)
    return a : Reader ε α) := by
  intro c c' x h
  obtain ⟨-, -, hNil, -⟩ := (acceptsAll_end long a c c' x).mp h
  rw [hNil]
  refine ⟨fun more hNe => ⟨⟨more, c.offset⟩, ?_⟩, fun p hp => absurd hp Bytes.ProperPrefix.not_nil⟩
  have hMore : (remaining : Reader ε Nat) ⟨more, c.offset⟩ = .ok more.length ⟨more, c.offset⟩ := rfl
  rw [List.nil_append, bind_apply_of_ok hMore, if_pos (mt List.length_eq_zero_iff.mp hNe)]
  rfl

/-! ### Data that are lengthened or cut -/

/-- Data that are accepted are **not accepted with something behind them**. -/
theorem Exact.parse_append {reader : Reader ε α} (h : Exact short long reader) {data x : Bytes}
    {a : α} (hParse : reader.parse data = .ok a) (hNe : x ≠ []) :
    reader.parse (data ++ x) = .error (long x.length) := by
  rw [parse] at hParse
  cases hRun : reader (Cursor.start data) with
  | error fault c => rw [hRun] at hParse; cases hParse
  | ok value c =>
      obtain ⟨c', hError⟩ := (h hRun).1 x hNe
      change reader (Cursor.start (data ++ x)) = _ at hError
      rw [parse, hError]

/-- Of data that are accepted, **no proper prefix is**. -/
theorem Exact.parse_of_properPrefix {reader : Reader ε α} (h : Exact short long reader)
    {data p : Bytes} {a : α} (hParse : reader.parse data = .ok a) (hp : p.ProperPrefix data) :
    ∃ fault, reader.parse p = .error fault ∧ short fault := by
  rw [parse] at hParse
  cases hRun : reader (Cursor.start data) with
  | error fault c => rw [hRun] at hParse; cases hParse
  | ok value c =>
      obtain ⟨fault, c', hError, hShort⟩ := (h hRun).2 p hp
      change reader (Cursor.start p) = _ at hError
      exact ⟨fault, by rw [parse, hError], hShort⟩

end Reader

end RemoteAttestation
