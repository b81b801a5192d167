import RemoteAttestation.Proofs.Wire.Fields

/-!
# Reading On After Failures

A read that fails leaves a cursor behind, and reading may go on from there, with another kind
of field. So the cursor has to be sound after any reads, whether they succeeded or not. What it
is sound for is the data that it started with: it has counted as many octets as it is behind,
and what it has left are the others (`Cursor.Inside`). Nothing else is needed for the positions
in all reads and in all faults to be right.

A read ends in one of three ways. It takes what a field of its kind is written as, it finds too
few octets at once and takes none, or it takes the length of a string and finds too few octets
behind it (`FieldKind.Stops`). In each of them the cursor stays inside the data, and by
induction it does over every sequence of attempts, each at the cursor that the one before it
left (`Cursor.attempts`).

## Main results

* `Cursor.Inside.of_append`: taking octets from the front.
* `FieldKind.stops_of_read`: where a read stops, and with which fault.
* `Attempt.sound`: what one attempt does at a cursor inside some data.
* `Cursor.attempts_sound`: what every sequence of attempts does to the cursor of some data.
-/

namespace RemoteAttestation

/-! ### Positions in data -/

namespace Cursor

variable {data b : Bytes} {c c' : Cursor}

/-- A cursor is **inside** some data when it has counted as many octets of them as it is
behind, and has the others left. -/
structure Inside (data : Bytes) (c : Cursor) : Prop where
  /-- It has not counted more octets than there are. -/
  offset_le : c.offset ≤ data.length
  /-- It has all others left. -/
  rest_eq : c.rest = data.drop c.offset

/-- A cursor at the start of some data is inside them. -/
theorem inside_start (data : Bytes) : Inside data (start data) :=
  ⟨Nat.zero_le _, rfl⟩

/-- What is read and what is left are the data. -/
theorem Inside.offset_add_remaining (h : Inside data c) : c.offset + c.remaining = data.length := by
  rw [remaining, h.rest_eq, List.length_drop, Nat.add_sub_cancel' h.offset_le]

/-- A cursor that takes octets from the front **stays inside**. -/
theorem Inside.of_append (h : Inside data c) (hRest : c.rest = b ++ c'.rest)
    (hOffset : c'.offset = c.offset + b.length) : Inside data c' := by
  have hLeft := h.offset_add_remaining
  rw [remaining, hRest, List.length_append] at hLeft
  refine ⟨by omega, ?_⟩
  rw [hOffset, ← List.drop_drop, ← h.rest_eq, hRest, List.drop_left]

/-- The octets that were taken are **those between the two positions**. -/
theorem Inside.extract_eq (h : Inside data c) (hRest : c.rest = b ++ c'.rest)
    (hOffset : c'.offset = c.offset + b.length) : data.extract c.offset c'.offset = b := by
  rw [List.extract_eq_take_drop, ← h.rest_eq, hRest, hOffset, Nat.add_sub_cancel_left,
    List.take_left]

end Cursor

/-! ### Where a read stops -/

namespace Reader

variable {ε α β : Type} {c c' : Cursor}

/-- Two readers **fail** when the first does, or else the second where the first has
stopped. -/
theorem bind_apply_eq_error_iff {reader : Reader ε α} {f : α → Reader ε β} {c'' : Cursor}
    {fault : ε} : (reader >>= f) c = .error fault c'' ↔
      reader c = .error fault c'' ∨ ∃ a c', reader c = .ok a c' ∧ f a c' = .error fault c'' := by
  change EStateM.bind reader f c = _ ↔ _
  rw [EStateM.bind]
  cases reader c with
  | ok a c' => simp
  | error fault c' => simp

/-- A value that is made of what was read is missed where that is. -/
theorem map_apply_eq_error_iff {reader : Reader ε α} {f : α → β} {fault : ε} :
    (do return f (← reader) : Reader ε β) c = .error fault c' ↔ reader c = .error fault c' := by
  rw [bind_apply_eq_error_iff]
  constructor
  · rintro (h | ⟨a, c'', -, h⟩)
    · exact h
    · cases h
  · exact .inl

/-- A number of octets is refused when fewer are left, and the cursor stays where it is. -/
theorem take_apply_eq_error_iff {n : Nat} {fault : Underflow} :
    take n c = .error fault c' ↔
      c.remaining < n ∧ c' = c ∧ fault = ⟨n, c.offset, c.remaining⟩ := by
  rw [take]
  by_cases hEnough : n ≤ c.remaining
  · simp [hEnough, Nat.not_lt.mpr hEnough]
  · rw [if_neg hEnough, EStateM.Result.error.injEq]
    have hShort := Nat.not_le.mp hEnough
    constructor
    · rintro ⟨rfl, rfl⟩
      exact ⟨hShort, rfl, rfl⟩
    · rintro ⟨-, rfl, rfl⟩
      exact ⟨rfl, rfl⟩

end Reader

namespace FieldKind

/-- The number of octets that a read of the kind takes **first**. -/
def head : FieldKind → Nat
  | u8 => 1
  | u16 => 2
  | u32 => 4
  | u64 => 8
  | octets n => n
  | sized => 2

/-- Where a read **stops** for want of octets, and how many it wants there. -/
inductive Stops (c : Cursor) : FieldKind → Nat → Cursor → Prop
  /-- It stops at once. -/
  | atOnce {kind : FieldKind} : c.remaining < kind.head → Stops c kind kind.head c
  /-- It stops behind the length of a string. -/
  | behindLength {n : UInt16} {c' : Cursor} : c.rest = Wire.u16 n ++ c'.rest →
      c'.offset = c.offset + 2 → c'.remaining < n.toNat → Stops c .sized n.toNat c'

variable {c c' : Cursor} {kind : FieldKind} {wanted : Nat}

/-- Where it stops there is **less than it wants**. -/
theorem Stops.lt (h : Stops c kind wanted c') : c'.remaining < wanted := by
  cases h with
  | atOnce hShort => exact hShort
  | behindLength _ _ hShort => exact hShort

/-- What was taken before is in front of what is left. -/
theorem Stops.exists_taken (h : Stops c kind wanted c') :
    ∃ b, c.rest = b ++ c'.rest ∧ c'.offset = c.offset + b.length := by
  cases h with
  | atOnce _ => exact ⟨[], rfl, rfl⟩
  | behindLength hRest hOffset _ => exact ⟨_, hRest, by rw [hOffset, Wire.length_u16]⟩

/-- Without a length in front the cursor stays where it is. -/
theorem Stops.eq_of_ne_sized (h : Stops c kind wanted c') (hKind : kind ≠ .sized) : c' = c := by
  cases h with
  | atOnce _ => rfl
  | behindLength _ _ _ => exact absurd rfl hKind

/-- The position moves by nothing, or over the length. -/
theorem Stops.offset_eq (h : Stops c kind wanted c') :
    c'.offset = c.offset ∨ c'.offset = c.offset + 2 := by
  cases h with
  | atOnce _ => exact .inl rfl
  | behindLength _ hOffset _ => exact .inr hOffset

/-- **How much is wanted**: what comes first, or as much as the length that was taken says. -/
theorem Stops.wanted_eq {data : Bytes} (h : Stops c kind wanted c') (hInside : c.Inside data) :
    wanted = if c'.offset = c.offset then kind.head
      else Bytes.value (data.extract c.offset c'.offset) := by
  cases h with
  | atOnce _ => rw [if_pos rfl]
  | @behindLength n _ hRest hOffset _ =>
      have hMoved : c'.offset ≠ c.offset := by omega
      rw [if_neg hMoved, hInside.extract_eq hRest (by rw [hOffset, Wire.length_u16]), Wire.u16,
        Bytes.value_ofNat_of_lt n.toNat_lt]

/-- If the head of a field is missing, the reader stops there. -/
theorem stops_of_take {fault : Underflow} (h : Reader.take kind.head c = .error fault c') :
    ∃ wanted, Stops c kind wanted c' ∧ fault = ⟨wanted, c'.offset, c'.remaining⟩ := by
  obtain ⟨hShort, rfl, rfl⟩ := Reader.take_apply_eq_error_iff.mp h
  exact ⟨_, .atOnce hShort, rfl⟩

/-- **With which fault a read stops**: how much it wanted, where, and how much there was. -/
theorem stops_of_read {fault : Underflow} (h : kind.read c = .error fault c') :
    ∃ wanted, Stops c kind wanted c' ∧ fault = ⟨wanted, c'.offset, c'.remaining⟩ := by
  cases kind with
  | u8 | u16 | u32 | u64 =>
      have hInteger := Reader.map_apply_eq_error_iff.mp h
      exact stops_of_take (Reader.map_apply_eq_error_iff.mp hInteger)
  | octets n => exact stops_of_take (Reader.map_apply_eq_error_iff.mp h)
  | sized =>
      have hSized := Reader.map_apply_eq_error_iff.mp h
      rcases Reader.bind_apply_eq_error_iff.mp hSized with hLength | ⟨n, c₁, hLength, hString⟩
      · exact stops_of_take (Reader.map_apply_eq_error_iff.mp hLength)
      · obtain ⟨b, hRest, hOffset, rfl⟩ := (Reader.accepts_u16 _ _ _).mp hLength
        rw [Wire.length_u16] at hOffset
        obtain ⟨hShort, rfl, rfl⟩ := Reader.take_apply_eq_error_iff.mp hString
        exact ⟨n.toNat, .behindLength hRest hOffset hShort, rfl⟩

end FieldKind

/-! ### One attempt -/

/-- An **attempt**: the cursor that a field is read at, and the kind of the field. -/
structure Attempt where
  /-- The cursor in front of the field. -/
  before : Cursor
  /-- What is to be read. -/
  kind : FieldKind
  deriving Repr, DecidableEq

namespace Attempt

/-- The field, or why there is none. -/
def outcome (attempt : Attempt) : Except Underflow Field :=
  match attempt.kind.read attempt.before with
  | .ok field _ => .ok field
  | .error fault _ => .error fault

/-- The cursor that is left, with or without a field. -/
def after (attempt : Attempt) : Cursor :=
  match attempt.kind.read attempt.before with
  | .ok _ c => c
  | .error _ c => c

variable {attempt : Attempt} {data : Bytes}

/-- A field that an attempt brought was read by it. -/
theorem read_of_outcome_ok {field : Field} (h : attempt.outcome = .ok field) :
    attempt.kind.read attempt.before = .ok field attempt.after := by
  rw [outcome] at h
  rw [after]
  cases hRead : attempt.kind.read attempt.before with
  | ok other c =>
      rw [hRead] at h
      rw [Except.ok.inj h]
  | error fault c =>
      rw [hRead] at h
      cases h

/-- A fault that an attempt brought was met by its reader. -/
theorem read_of_outcome_error {fault : Underflow} (h : attempt.outcome = .error fault) :
    attempt.kind.read attempt.before = .error fault attempt.after := by
  rw [outcome] at h
  rw [after]
  cases hRead : attempt.kind.read attempt.before with
  | ok field c =>
      rw [hRead] at h
      cases h
  | error other c =>
      rw [hRead] at h
      rw [Except.error.inj h]

/-- A field that is read is taken **from the front**. -/
theorem takes_of_outcome {field : Field} (h : attempt.outcome = .ok field) :
    attempt.before.rest = field.write ++ attempt.after.rest ∧
      attempt.after.offset = attempt.before.offset + field.write.length ∧
      field.kind = attempt.kind ∧ field.Fits := by
  obtain ⟨b, hRest, hOffset, rfl, hKind, hFits⟩ :=
    (Reader.accepts_read _ _ _ _).mp (read_of_outcome_ok h)
  exact ⟨hRest, hOffset, hKind, hFits⟩

/-- A field that is missed is missed where the read of its kind **stops**. -/
theorem stops_of_outcome {fault : Underflow} (h : attempt.outcome = .error fault) :
    ∃ wanted, FieldKind.Stops attempt.before attempt.kind wanted attempt.after ∧
      fault = ⟨wanted, attempt.after.offset, attempt.after.remaining⟩ :=
  FieldKind.stops_of_read (read_of_outcome_error h)

/-- How many octets a failed attempt **wants** where it stops: those that come first, if it has
not moved, and otherwise as many as the length that it took says. -/
def wanted (attempt : Attempt) (data : Bytes) : Nat :=
  if attempt.after.offset = attempt.before.offset then attempt.kind.head
  else Bytes.value (data.extract attempt.before.offset attempt.after.offset)

/-- A **sound** attempt to read a field of some data. -/
structure Sound (data : Bytes) (attempt : Attempt) : Prop where
  /-- The position is not moved back. -/
  forward : attempt.before.offset ≤ attempt.after.offset
  /-- It is not behind the end. -/
  offset_le : attempt.after.offset ≤ data.length
  /-- What is read and what is left are the data. -/
  whole : attempt.after.offset + attempt.after.remaining = data.length
  /-- A field is of its kind, and it is what stands between the old position and the new
  one. -/
  field : ∀ field, attempt.outcome = .ok field → field.kind = attempt.kind ∧ field.Fits ∧
    data.extract attempt.before.offset attempt.after.offset = field.write
  /-- If there is no length in front of it, a field that is missed leaves the cursor as it
  is. -/
  unmoved : ∀ fault, attempt.outcome = .error fault → attempt.kind ≠ .sized →
    attempt.after = attempt.before
  /-- If there is one, it moves the position by nothing or by the length. -/
  moved : ∀ fault, attempt.outcome = .error fault → attempt.kind = .sized →
    attempt.after.offset = attempt.before.offset ∨
      attempt.after.offset = attempt.before.offset + 2
  /-- The fault says what was wanted, where, and how much there was, which is less. -/
  fault : ∀ fault, attempt.outcome = .error fault →
    fault = ⟨attempt.wanted data, attempt.after.offset, attempt.after.remaining⟩ ∧
      fault.available < fault.wanted

/-- With or without a field, the octets that are gone were **in front**. -/
theorem exists_taken (attempt : Attempt) : ∃ b, attempt.before.rest = b ++ attempt.after.rest ∧
    attempt.after.offset = attempt.before.offset + b.length := by
  cases hOutcome : attempt.outcome with
  | ok field =>
      obtain ⟨hRest, hOffset, -, -⟩ := takes_of_outcome hOutcome
      exact ⟨field.write, hRest, hOffset⟩
  | error fault =>
      obtain ⟨wanted, hStops, -⟩ := stops_of_outcome hOutcome
      exact hStops.exists_taken

/-- The cursor **stays inside** the data. -/
theorem inside_after (h : attempt.before.Inside data) : attempt.after.Inside data := by
  obtain ⟨b, hRest, hOffset⟩ := attempt.exists_taken
  exact h.of_append hRest hOffset

/-- **Every attempt** at a cursor inside some data is sound. -/
theorem sound (h : attempt.before.Inside data) : attempt.Sound data := by
  have hAfter := inside_after h
  obtain ⟨b, -, hTaken⟩ := attempt.exists_taken
  exact
    { forward := hTaken ▸ Nat.le_add_right _ _
      offset_le := hAfter.offset_le
      whole := hAfter.offset_add_remaining
      field := by
        intro field hField
        obtain ⟨hRest, hOffset, hKind, hFits⟩ := takes_of_outcome hField
        exact ⟨hKind, hFits, h.extract_eq hRest hOffset⟩
      unmoved := by
        intro fault hFault hKind
        obtain ⟨wanted, hStops, -⟩ := stops_of_outcome hFault
        exact hStops.eq_of_ne_sized hKind
      moved := by
        intro fault hFault _
        obtain ⟨wanted, hStops, -⟩ := stops_of_outcome hFault
        exact hStops.offset_eq
      fault := by
        intro fault hFault
        obtain ⟨wanted, hStops, rfl⟩ := stops_of_outcome hFault
        exact ⟨by rw [Attempt.wanted, ← hStops.wanted_eq h], hStops.lt⟩ }

end Attempt

/-! ### Attempts one after the other -/

namespace Cursor

/-- The **attempts** to read fields of some kinds, each at the cursor that the one before it
left behind. -/
def attempts : List FieldKind → Cursor → List Attempt
  | [], _ => []
  | kind :: kinds, c => ⟨c, kind⟩ :: attempts kinds (Attempt.mk c kind).after

variable {data : Bytes} {c : Cursor} {kinds : List FieldKind} {attempt : Attempt}

/-- There is an attempt for each kind, in their order. -/
theorem map_kind_attempts (kinds : List FieldKind) (c : Cursor) :
    (attempts kinds c).map Attempt.kind = kinds := by
  induction kinds generalizing c with
  | nil => rfl
  | cons kind kinds ih => exact congrArg (kind :: ·) (ih _)

/-- Every attempt is made **inside** the data. -/
theorem Inside.of_mem_attempts (h : Inside data c) (hAttempt : attempt ∈ attempts kinds c) :
    attempt.before.Inside data := by
  induction kinds generalizing c with
  | nil => cases hAttempt
  | cons kind kinds ih =>
      rcases List.mem_cons.mp hAttempt with rfl | hRest
      · exact h
      · exact ih (Attempt.inside_after h) hRest

/-- No attempt is made in front of where the cursor was. -/
theorem offset_le_of_mem_attempts (hAttempt : attempt ∈ attempts kinds c) :
    c.offset ≤ attempt.before.offset := by
  induction kinds generalizing c with
  | nil => cases hAttempt
  | cons kind kinds ih =>
      rcases List.mem_cons.mp hAttempt with rfl | hRest
      · exact Nat.le_refl _
      · obtain ⟨b, -, hTaken⟩ := (Attempt.mk c kind).exists_taken
        exact Nat.le_trans (hTaken ▸ Nat.le_add_right _ _) (ih hRest)

/-- Of two attempts the later one is made **no further in front** than the earlier one ends. -/
theorem pairwise_attempts (kinds : List FieldKind) (c : Cursor) :
    (attempts kinds c).Pairwise fun earlier later =>
      earlier.after.offset ≤ later.before.offset := by
  induction kinds generalizing c with
  | nil => exact .nil
  | cons kind kinds ih =>
      exact List.pairwise_cons.mpr ⟨fun later hLater => offset_le_of_mem_attempts hLater, ih _⟩

/-- **The cursor stays sound over every run.** Whatever kinds of fields are tried on some data,
one after the other and whether the fields are there or not, each attempt is sound for the
data, and none is made in front of where an earlier one ended. -/
theorem attempts_sound (data : Bytes) (kinds : List FieldKind) :
    (attempts kinds (start data)).map Attempt.kind = kinds ∧
    (∀ attempt ∈ attempts kinds (start data), attempt.Sound data) ∧
    (attempts kinds (start data)).Pairwise fun earlier later =>
      earlier.after.offset ≤ later.before.offset := by
  refine ⟨map_kind_attempts kinds _, fun attempt hAttempt => ?_, pairwise_attempts kinds _⟩
  exact Attempt.sound ((inside_start data).of_mem_attempts hAttempt)

end Cursor

/-! ### A string that is cut short -/

namespace CutString

/-- A length of three, and two octets behind it. -/
def data : Bytes := [0, 3, 7, 7]

def kinds : List FieldKind := [.sized, .u8, .u16, .octets 1]

end CutString

open CutString Cursor in
/-- The string is missed and so is an integer behind it, but the octets that are there are
read. -/
theorem Cursor.attempts_sound_of_cut_string :
    (attempts kinds (start data)).map Attempt.outcome =
        [.error ⟨3, 2, 2⟩, .ok (.u8 7), .error ⟨2, 3, 1⟩, .ok (.octets [7])] ∧
      (Attempt.mk (start data) .sized).Sound data ∧ (Attempt.mk ⟨[7, 7], 2⟩ .u8).Sound data := by
  obtain ⟨-, hSound, -⟩ := attempts_sound data kinds
  exact ⟨by decide, hSound _ (by decide), hSound _ (by decide)⟩

end RemoteAttestation
