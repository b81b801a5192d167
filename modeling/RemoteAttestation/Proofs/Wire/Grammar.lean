import RemoteAttestation.Proofs.Bytes.Integer
import RemoteAttestation.Wire.Reader
import RemoteAttestation.Wire.Writer

/-!
# The Grammars of Readers

A grammar says which strings stand for which values. A reader **accepts** a grammar when it
succeeds on just those data that begin with a string of the grammar, gives the value that the
string stands for, and takes the string and nothing else (`Reader.Accepts`). Both directions
are in the definition: what is written is read back, and what is read was written.

Readers are put one after the other, and so are their grammars (`Reader.Accepts.bind`), so the
grammar of a structure follows from those of its fields without looking at cursors again. A
reader that must come to the end of the data accepts whole strings only (`Reader.AcceptsAll`).

## Main results

* `Reader.accepts_take`, `Reader.accepts_u16` and its like, `Reader.accepts_sized`: the fields.
* `Reader.Accepts.bind`, `Reader.AcceptsAll.bind`: one field after another.
* `Reader.Accepts.parse_eq_ok_iff`, `Reader.AcceptsAll.parse_eq_ok_iff`: the data that are accepted
  from the front, and as a whole.
-/

namespace RemoteAttestation

/-! ### Written integers -/

namespace Wire

/-- A number of 16 bits is written in two octets. -/
@[simp] theorem length_u16 (n : UInt16) : (u16 n).length = 2 := Bytes.length_ofNat _ _

@[simp] theorem length_u32 (n : UInt32) : (u32 n).length = 4 := Bytes.length_ofNat _ _

/-- A string behind its length takes two octets more. -/
@[simp] theorem length_sized (b : Bytes) : (sized b).length = 2 + b.length := by
  rw [sized, List.length_append, Bytes.length_ofNat]

/-- Numbers of 16 bits are told apart by their octets. -/
theorem u16_inj {m n : UInt16} : u16 m = u16 n ↔ m = n :=
  (Bytes.ofNat_inj m.toNat_lt n.toNat_lt).trans UInt16.toNat_inj

theorem u32_inj {m n : UInt32} : u32 m = u32 n ↔ m = n :=
  (Bytes.ofNat_inj m.toNat_lt n.toNat_lt).trans UInt32.toNat_inj

theorem u64_inj {m n : UInt64} : u64 m = u64 n ↔ m = n :=
  (Bytes.ofNat_inj m.toNat_lt n.toNat_lt).trans UInt64.toNat_inj

/-- Two octets are those of the number that they are. -/
theorem u16_value {b : Bytes} (h : b.length = 2) : u16 (UInt16.ofNat (Bytes.value b)) = b := by
  have hLt := Bytes.value_lt b
  rw [h] at hLt
  rw [u16, UInt16.toNat_ofNat_of_lt' hLt, ← h, Bytes.ofNat_value]

/-- A number below `2 ^ 32` is written in four octets as it is. -/
theorem u32_ofNat {n : Nat} (h : n < 2 ^ 32) : u32 (UInt32.ofNat n) = Bytes.ofNat 4 n := by
  rw [u32, UInt32.toNat_ofNat_of_lt' h]

theorem u32_value {b : Bytes} (h : b.length = 4) : u32 (UInt32.ofNat (Bytes.value b)) = b := by
  have hLt := Bytes.value_lt b
  rw [h] at hLt
  rw [u32, UInt32.toNat_ofNat_of_lt' hLt, ← h, Bytes.ofNat_value]

/-- A number of 32 bits is read back from its octets. -/
theorem ofNat_value_u32 (n : UInt32) : UInt32.ofNat (Bytes.value (u32 n)) = n := by
  rw [u32, Bytes.value_ofNat_of_lt n.toNat_lt, UInt32.ofNat_toNat]

end Wire

/-! ### Grammars -/

/-- A **grammar**: which strings stand for which values. -/
abbrev Grammar (α : Type) := Bytes → α → Prop

namespace Grammar

variable {α β : Type}

/-- The strings that are written for the values. -/
def written (write : α → Bytes) : Grammar α := fun b a => b = write a

/-- A string of one grammar and then a string of another, which may depend on the first
value. -/
def seq (g : Grammar α) (k : α → Grammar β) : Grammar β := fun b y =>
  ∃ x first second, b = first ++ second ∧ g first x ∧ k x second y

/-- The empty string, for one value. -/
def nothing (a : α) : Grammar α := fun b x => b = [] ∧ x = a

/-- The strings of a grammar, if a condition holds. -/
def guarded (p : Prop) (g : Grammar α) : Grammar α := fun b a => p ∧ g b a

end Grammar

namespace Reader

variable {ε ε' α β : Type}

/-- A reader **accepts** a grammar when it succeeds on the data that begin with a string of the
grammar, and takes just that string. -/
def Accepts (reader : Reader ε α) (g : Grammar α) : Prop :=
  ∀ (c c' : Cursor) (a : α), reader c = .ok a c' ↔
    ∃ b, c.rest = b ++ c'.rest ∧ c'.offset = c.offset + b.length ∧ g b a

/-- A reader accepts a grammar of **whole strings** when it succeeds on the data that are a
string of the grammar, and takes all of them. -/
def AcceptsAll (reader : Reader ε α) (g : Grammar α) : Prop :=
  ∀ (c c' : Cursor) (a : α), reader c = .ok a c' ↔
    c'.rest = [] ∧ c'.offset = c.offset + c.rest.length ∧ g c.rest a

/-! ### Putting readers together -/

/-- Two readers **succeed** one after the other when the first does, and the second where the
first has stopped. -/
theorem bind_apply_eq_ok_iff {reader : Reader ε α} {f : α → Reader ε β} {c c'' : Cursor} {b : β} :
    (reader >>= f) c = .ok b c'' ↔ ∃ a c', reader c = .ok a c' ∧ f a c' = .ok b c'' := by
  change EStateM.bind reader f c = _ ↔ _
  rw [EStateM.bind]
  cases reader c with
  | ok a c' => simp
  | error fault c' => simp

/-- A result is there without anything being read. -/
theorem pure_apply_eq_ok_iff {a x : α} {c c' : Cursor} :
    (pure a : Reader ε α) c = .ok x c' ↔ x = a ∧ c' = c := by
  change EStateM.Result.ok a c = _ ↔ _
  rw [EStateM.Result.ok.injEq, eq_comm, eq_comm (a := c)]

/-- The position is known without anything being read. -/
theorem offset_apply_eq_ok_iff {n : Nat} {c c' : Cursor} :
    (offset : Reader ε Nat) c = .ok n c' ↔ n = c.offset ∧ c' = c := by
  rw [offset, EStateM.Result.ok.injEq, eq_comm, eq_comm (a := c)]

theorem remaining_apply_eq_ok_iff {n : Nat} {c c' : Cursor} :
    (remaining : Reader ε Nat) c = .ok n c' ↔ n = c.rest.length ∧ c' = c := by
  rw [remaining, Cursor.remaining, EStateM.Result.ok.injEq, eq_comm, eq_comm (a := c)]

/-- The form of its faults does not matter to what a reader accepts. -/
theorem orFail_apply_eq_ok_iff {reader : Reader ε α} {fault : ε → ε'} {c c' : Cursor} {a : α} :
    reader.orFail fault c = .ok a c' ↔ reader c = .ok a c' := by
  change EStateM.adaptExcept fault reader c = _ ↔ _
  rw [EStateM.adaptExcept]
  cases reader c with
  | ok x c'' => simp
  | error e c'' => simp

/-- Behind a guard a reader succeeds when the guard lets it pass. -/
theorem guard_apply_eq_ok_iff {p : Prop} [Decidable p] {fault : ε} {next : Unit → Reader ε α}
    {c c' : Cursor} {a : α} :
    (if p then throw fault >>= next else next ()) c = .ok a c' ↔ ¬ p ∧ next () c = .ok a c' := by
  by_cases hp : p
  · rw [if_pos hp]
    change EStateM.Result.error fault c = _ ↔ _
    simp [hp]
  · rw [if_neg hp]
    simp [hp]

/-- What is accepted as one grammar is accepted as another that says the same. -/
theorem Accepts.congr {reader : Reader ε α} {g g' : Grammar α} (h : Accepts reader g)
    (hEq : ∀ b a, g b a ↔ g' b a) : Accepts reader g' := by
  intro c c' a
  rw [h c c' a]
  simp only [hEq]

/-- One reader and then another. -/
theorem Accepts.bind {reader : Reader ε α} {f : α → Reader ε β} {g : Grammar α}
    {k : α → Grammar β} (h : Accepts reader g) (hNext : ∀ x, Accepts (f x) (k x)) :
    Accepts (reader >>= f) (g.seq k) := by
  intro c c'' y
  rw [bind_apply_eq_ok_iff]
  constructor
  · rintro ⟨x, c', hFirst, hSecond⟩
    obtain ⟨first, hRest, hOffset, hG⟩ := (h c c' x).mp hFirst
    obtain ⟨second, hRest', hOffset', hK⟩ := (hNext x c' c'' y).mp hSecond
    refine ⟨first ++ second, ?_, ?_, x, first, second, rfl, hG, hK⟩
    · rw [hRest, hRest', List.append_assoc]
    · rw [hOffset', hOffset, List.length_append, Nat.add_assoc]
  · rintro ⟨b, hRest, hOffset, x, first, second, rfl, hG, hK⟩
    refine ⟨x, ⟨second ++ c''.rest, c.offset + first.length⟩, (h _ _ _).mpr ⟨first, ?_, rfl, hG⟩,
      (hNext x _ _ _).mpr ⟨second, rfl, ?_, hK⟩⟩
    · rw [hRest, List.append_assoc]
    · rw [hOffset, List.length_append, Nat.add_assoc]

/-- One reader and then another that comes to the end. -/
theorem AcceptsAll.bind {reader : Reader ε α} {f : α → Reader ε β} {g : Grammar α}
    {k : α → Grammar β} (h : Accepts reader g) (hNext : ∀ x, AcceptsAll (f x) (k x)) :
    AcceptsAll (reader >>= f) (g.seq k) := by
  intro c c'' y
  rw [bind_apply_eq_ok_iff]
  constructor
  · rintro ⟨x, c', hFirst, hSecond⟩
    obtain ⟨first, hRest, hOffset, hG⟩ := (h c c' x).mp hFirst
    obtain ⟨hEnd, hOffset', hK⟩ := (hNext x c' c'' y).mp hSecond
    refine ⟨hEnd, ?_, x, first, c'.rest, hRest, hG, hK⟩
    rw [hOffset', hOffset, hRest, List.length_append, Nat.add_assoc]
  · rintro ⟨hEnd, hOffset, x, first, second, hRest, hG, hK⟩
    refine ⟨x, ⟨second, c.offset + first.length⟩, (h _ _ _).mpr ⟨first, hRest, rfl, hG⟩,
      (hNext x _ _ _).mpr ⟨hEnd, ?_, hK⟩⟩
    rw [hOffset, hRest, List.length_append, Nat.add_assoc]

/-- A result without reading is the grammar of nothing. -/
theorem accepts_pure (a : α) : Accepts (pure a : Reader ε α) (Grammar.nothing a) := by
  intro c c' x
  obtain ⟨rest, offset⟩ := c
  obtain ⟨rest', offset'⟩ := c'
  rw [pure_apply_eq_ok_iff, Cursor.mk.injEq]
  constructor
  · rintro ⟨rfl, rfl, rfl⟩
    exact ⟨[], rfl, rfl, rfl, rfl⟩
  · rintro ⟨b, hRest, hOffset, rfl, rfl⟩
    exact ⟨rfl, hRest.symm, hOffset⟩

/-- A reader that fails accepts nothing. -/
theorem accepts_throw (fault : ε) : Accepts (throw fault : Reader ε α) fun _ _ => False := by
  intro c c' a
  change EStateM.Result.error fault c = _ ↔ _
  simp

/-- A known result takes nothing. -/
theorem accepts_ofExcept (result : Except ε α) :
    Accepts (ofExcept result) fun b x => b = [] ∧ result = .ok x := by
  cases result with
  | error fault =>
      exact (accepts_throw fault).congr fun b x => by simp
  | ok a => exact (accepts_pure a).congr fun b x => by simp [Grammar.nothing, eq_comm]

/-- A condition between two readers. -/
theorem Accepts.guard {p : Prop} [Decidable p] {next : Unit → Reader ε α} {g : Grammar α}
    (fault : ε) (h : Accepts (next ()) g) :
    Accepts (if p then throw fault >>= next else next ()) (Grammar.guarded (¬ p) g) := by
  intro c c' a
  rw [guard_apply_eq_ok_iff, h c c' a]
  simp only [Grammar.guarded]
  constructor
  · rintro ⟨hp, b, hRest, hOffset, hG⟩
    exact ⟨b, hRest, hOffset, hp, hG⟩
  · rintro ⟨b, hRest, hOffset, hp, hG⟩
    exact ⟨hp, b, hRest, hOffset, hG⟩

/-- The form of its faults does not matter to the grammar of a reader. -/
theorem Accepts.orFail {reader : Reader ε α} {g : Grammar α} (h : Accepts reader g)
    (fault : ε → ε') : Accepts (reader.orFail fault) g := fun c c' a =>
  orFail_apply_eq_ok_iff.trans (h c c' a)

/-- Reading moves the offset forward. -/
theorem Accepts.offset_le {reader : Reader ε α} {g : Grammar α} (h : Accepts reader g)
    {c c' : Cursor} {a : α} (hRun : reader c = .ok a c') : c.offset ≤ c'.offset := by
  obtain ⟨b, -, hOffset, -⟩ := (h c c' a).mp hRun
  exact hOffset ▸ Nat.le_add_right _ _

/-- What is read and what is left are the data. -/
theorem Accepts.offset_add_length {reader : Reader ε α} {g : Grammar α} (h : Accepts reader g)
    {c c' : Cursor} {a : α} (hRun : reader c = .ok a c') :
    c'.offset + c'.rest.length = c.offset + c.rest.length := by
  obtain ⟨b, hRest, hOffset, -⟩ := (h c c' a).mp hRun
  rw [hRest, hOffset, List.length_append, Nat.add_assoc]

/-- A string of the grammar is in front of the data in **one way**. -/
theorem Accepts.unique {reader : Reader ε α} {g : Grammar α} (h : Accepts reader g)
    {b b' rest rest' : Bytes} {a a' : α} (hForm : g b a) (hForm' : g b' a')
    (hData : b ++ rest = b' ++ rest') : a = a' ∧ rest = rest' := by
  have hRead := (h ⟨b ++ rest, 0⟩ ⟨rest, _⟩ a).mpr ⟨b, rfl, rfl, hForm⟩
  have hRead' := (h ⟨b ++ rest, 0⟩ ⟨rest', _⟩ a').mpr ⟨b', hData, rfl, hForm'⟩
  obtain ⟨hValue, hCursor⟩ := EStateM.Result.ok.inj (hRead.symm.trans hRead')
  exact ⟨hValue, (Cursor.mk.inj hCursor).1⟩

/-! ### Fields -/

/-- A number of octets is any string of that length. -/
theorem accepts_take (n : Nat) : Accepts (take n) fun b x => b = x ∧ x.length = n := by
  intro c c' x
  obtain ⟨rest, offset⟩ := c
  obtain ⟨rest', offset'⟩ := c'
  rw [take, Cursor.remaining]
  by_cases hEnough : n ≤ rest.length
  · rw [if_pos hEnough, EStateM.Result.ok.injEq, Cursor.mk.injEq]
    constructor
    · rintro ⟨rfl, rfl, rfl⟩
      have hLength : (rest.take n).length = n := List.length_take_of_le hEnough
      exact ⟨rest.take n, (List.take_append_drop n rest).symm, by rw [hLength], rfl, hLength⟩
    · rintro ⟨b, hRest, hOffset, rfl, rfl⟩
      dsimp only at hRest hOffset
      rw [hRest, hOffset]
      exact ⟨List.take_left, List.drop_left, rfl⟩
  · rw [if_neg hEnough]
    simp only [reduceCtorEq, false_iff]
    rintro ⟨b, hRest, -, rfl, rfl⟩
    rw [hRest, List.length_append] at hEnough
    omega

/-- An integer in a number of octets, for a type that has as many values as there are such
strings. -/
theorem accepts_integer {width : Nat} {toNat : α → Nat} {ofNat : Nat → α}
    (hLt : ∀ a, toNat a < 256 ^ width) (hToNat : ∀ n < 256 ^ width, toNat (ofNat n) = n)
    (hOfNat : ∀ a, ofNat (toNat a) = a) :
    Accepts (do return ofNat (← take width).value)
      (Grammar.written fun a => Bytes.ofNat width (toNat a)) := by
  refine ((accepts_take width).bind fun x => accepts_pure (ofNat x.value)).congr fun b a => ?_
  constructor
  · rintro ⟨x, first, second, rfl, ⟨rfl, hLength⟩, rfl, rfl⟩
    have hValue := Bytes.value_lt first
    rw [hLength] at hValue
    have hWrite := Bytes.ofNat_value first
    rw [hLength] at hWrite
    rw [Grammar.written, List.append_nil, hToNat _ hValue, hWrite]
  · rintro rfl
    refine ⟨_, _, [], (List.append_nil _).symm, ⟨rfl, Bytes.length_ofNat _ _⟩, rfl, ?_⟩
    rw [Bytes.value_ofNat_of_lt (hLt a), hOfNat]

/-- A single octet is read as it is written. -/
theorem accepts_u8 : Accepts u8 (Grammar.written Wire.u8) := by
  refine Accepts.congr (accepts_integer UInt8.toNat_lt (fun _ => UInt8.toNat_ofNat_of_lt')
    fun _ => UInt8.ofNat_toNat) fun b n => ?_
  simp [Grammar.written, Wire.u8, Bytes.ofNat]

theorem accepts_u16 : Accepts u16 (Grammar.written Wire.u16) :=
  accepts_integer UInt16.toNat_lt (fun _ => UInt16.toNat_ofNat_of_lt') fun _ => UInt16.ofNat_toNat

theorem accepts_u32 : Accepts u32 (Grammar.written Wire.u32) :=
  accepts_integer UInt32.toNat_lt (fun _ => UInt32.toNat_ofNat_of_lt') fun _ => UInt32.ofNat_toNat

theorem accepts_u64 : Accepts u64 (Grammar.written Wire.u64) :=
  accepts_integer UInt64.toNat_lt (fun _ => UInt64.toNat_ofNat_of_lt') fun _ => UInt64.ofNat_toNat

/-- A string behind its length. -/
theorem accepts_sized : Accepts sized fun b x => b = Wire.sized x ∧ x.length < 65536 := by
  refine (accepts_u16.bind fun n => accepts_take n.toNat).congr fun b x => ?_
  constructor
  · rintro ⟨n, first, second, rfl, rfl, rfl, hLength⟩
    exact ⟨by rw [Wire.sized, hLength, Wire.u16], hLength ▸ n.toNat_lt⟩
  · rintro ⟨rfl, hLt⟩
    have hToNat : (UInt16.ofNat x.length).toNat = x.length := UInt16.toNat_ofNat_of_lt' hLt
    exact ⟨UInt16.ofNat x.length, _, x, rfl, by rw [Grammar.written, Wire.u16, hToNat], rfl,
      hToNat.symm⟩

/-! ### Whole strings -/

/-- What is accepted to the end as one grammar is accepted as another that says the same. -/
theorem AcceptsAll.congr {reader : Reader ε α} {g g' : Grammar α} (h : AcceptsAll reader g)
    (hEq : ∀ b a, g b a ↔ g' b a) : AcceptsAll reader g' := by
  intro c c' a
  rw [h c c' a, hEq]

/-- A reader that always fails has the grammar without strings. -/
theorem acceptsAll_throw (fault : ε) :
    AcceptsAll (throw fault : Reader ε α) fun _ _ => False := by
  intro c c' a
  change EStateM.Result.error fault c = _ ↔ _
  simp

/-- A condition before a reader that comes to the end. -/
theorem AcceptsAll.guard {p : Prop} [Decidable p] {next : Unit → Reader ε α} {g : Grammar α}
    (fault : ε) (h : AcceptsAll (next ()) g) :
    AcceptsAll (if p then throw fault >>= next else next ()) (Grammar.guarded (¬ p) g) := by
  intro c c' a
  rw [guard_apply_eq_ok_iff, h c c' a]
  constructor
  · rintro ⟨hp, hEnd, hOffset, hG⟩
    exact ⟨hEnd, hOffset, hp, hG⟩
  · rintro ⟨hEnd, hOffset, hp, hG⟩
    exact ⟨hp, hEnd, hOffset, hG⟩

/-- At the end of a structure nothing may be left. -/
theorem acceptsAll_end (fault : Nat → ε) (a : α) :
    AcceptsAll (do
      let trailing ← remaining
      if trailing ≠ 0 then throw (fault trailing)
      return a : Reader ε α) (Grammar.nothing a) := by
  intro c c' x
  obtain ⟨rest, offset⟩ := c
  obtain ⟨rest', offset'⟩ := c'
  rw [bind_apply_eq_ok_iff]
  constructor
  · rintro ⟨n, _, hRemaining, h⟩
    obtain ⟨rfl, rfl⟩ := remaining_apply_eq_ok_iff.mp hRemaining
    obtain ⟨hNil, h⟩ := guard_apply_eq_ok_iff.mp h
    obtain ⟨rfl, hCursor⟩ := pure_apply_eq_ok_iff.mp h
    obtain ⟨rfl, rfl⟩ := Cursor.mk.inj hCursor
    obtain rfl : rest' = [] := List.length_eq_zero_iff.mp (not_not.mp hNil)
    exact ⟨rfl, rfl, rfl, rfl⟩
  · rintro ⟨rfl, hOffset, rfl, rfl⟩
    refine ⟨0, _, remaining_apply_eq_ok_iff.mpr ⟨rfl, rfl⟩, guard_apply_eq_ok_iff.mpr ⟨?_, ?_⟩⟩
    · exact not_not.mpr rfl
    · exact pure_apply_eq_ok_iff.mpr ⟨rfl, congrArg (Cursor.mk []) hOffset⟩

/-- A string is read as a whole when it belongs to the grammar. -/
theorem AcceptsAll.parse_eq_ok_iff {reader : Reader ε α} {g : Grammar α}
    (h : AcceptsAll reader g) {b : Bytes} {a : α} : reader.parse b = .ok a ↔ g b a := by
  have hAll := h (Cursor.start b)
  rw [parse]
  cases hRead : reader (Cursor.start b) with
  | ok x c =>
      obtain ⟨hEnd, hOffset, hX⟩ := (hAll c x).mp hRead
      rw [Except.ok.injEq]
      constructor
      · rintro rfl
        exact hX
      · intro hA
        have hOther := (hAll c a).mpr ⟨hEnd, hOffset, hA⟩
        rw [hRead, EStateM.Result.ok.injEq] at hOther
        exact hOther.1
  | error fault c =>
      simp only [reduceCtorEq, false_iff]
      intro hA
      have hOk := (hAll ⟨[], b.length⟩ a).mpr ⟨rfl, (Nat.zero_add _).symm, hA⟩
      rw [hRead] at hOk
      cases hOk

/-- Data are read from the front when they begin with a string of the grammar. -/
theorem Accepts.parse_eq_ok_iff {reader : Reader ε α} {g : Grammar α} (h : Accepts reader g)
    {data : Bytes} {a : α} : reader.parse data = .ok a ↔ ∃ b rest, data = b ++ rest ∧ g b a := by
  have hAll := h (Cursor.start data)
  rw [parse]
  cases hRead : reader (Cursor.start data) with
  | ok x c =>
      rw [Except.ok.injEq]
      constructor
      · rintro rfl
        obtain ⟨b, hData, -, hG⟩ := (hAll c x).mp hRead
        exact ⟨b, c.rest, hData, hG⟩
      · rintro ⟨b, rest, hData, hG⟩
        have hOther := (hAll ⟨rest, _⟩ a).mpr ⟨b, hData, rfl, hG⟩
        rw [hRead, EStateM.Result.ok.injEq] at hOther
        exact hOther.1
  | error fault c =>
      simp only [reduceCtorEq, false_iff]
      rintro ⟨b, rest, hData, hG⟩
      have hOk := (hAll ⟨rest, _⟩ a).mpr ⟨b, hData, rfl, hG⟩
      rw [hRead] at hOk
      cases hOk

end Reader

end RemoteAttestation
