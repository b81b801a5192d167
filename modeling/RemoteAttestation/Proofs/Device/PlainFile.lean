import RemoteAttestation.Device.PlainFile
import RemoteAttestation.Proofs.Bytes.Integer
import RemoteAttestation.Proofs.Device.Record

/-!
# Plain Files as Devices

A plain file that stands in for a TPM holds the responses already. A command is written at the
position, over whatever is there, and the octets behind it are read as the response: a header,
which states the size of the whole, and as much more as that leaves. So what is read is in the
file before the command is written, and the command reaches none of it; but the next command is
written behind the response, maybe over a later one.

`Answers` says what octets behind a command are answered as, and how many of them are used up.
It has the four ends that an exchange can have, which exclude each other, so every statement
about one exchange follows from it. A sequence of commands is a sequence of turns (`turns`),
each with the file that the one before it left. That an octet stays as it is unless a command
is written over it carries over from one turn to all of them by induction on the commands.

## Main results

* `PlainFile.drop_write`, `PlainFile.getElem?_write`: what is written, and what is left alone.
* `PlainFile.Turn.answers`: how an exchange ends, and where.
* `PlainFile.getElem?_after`: what a sequence of commands leaves alone.
* `PlainFile.turns_exact`: what a sequence of commands does to a file and gets from it.
-/

namespace RemoteAttestation

/-! ### Responses at the front of octets -/

namespace Response

/-- The size that the header of some octets states, as a number. -/
def sizeField (b : Bytes) : Nat :=
  Bytes.value ((b.drop 2).take 4)

/-- The size that a response states is the number in its field. -/
theorem toNat_statedSize (b : Bytes) : (statedSize b).toNat = sizeField b := by
  refine UInt32.toNat_ofNat_of_lt' (Nat.lt_of_lt_of_le (Bytes.value_lt _) ?_)
  exact Nat.pow_le_pow_right (by decide) (List.length_take_le 4 _)

/-- The field is in the header, so octets with the same header state the same size. -/
theorem sizeField_take (b : Bytes) {n : Nat} (h : TpmCommand.headerSize ≤ n) :
    sizeField (b.take n) = sizeField b := by
  have hTake : ((b.take n).drop 2).take 4 = (b.drop 2).take 4 := by
    rw [List.drop_take, List.take_take, Nat.min_eq_left]
    change 10 ≤ n at h
    omega
  exact congrArg Bytes.value hTake

/-- What is behind the header does not matter to the stated size. -/
theorem statedSize_take (b : Bytes) {n : Nat} (h : TpmCommand.headerSize ≤ n) :
    statedSize (b.take n) = statedSize b :=
  congrArg UInt32.ofNat (sizeField_take b h)

/-- A response **leads** some octets: it is at their front and as long as its own header
states. -/
structure Leads (response rest : Bytes) : Prop where
  isPrefix : response <+: rest
  /-- There is a header. -/
  header : TpmCommand.headerSize ≤ response.length
  /-- The header states the size of the whole. -/
  size : sizeField response = response.length

/-- **One** response at most leads some octets: as many of them as they state. -/
theorem leads_iff {response rest : Bytes} :
    Leads response rest ↔ TpmCommand.headerSize ≤ sizeField rest ∧
      sizeField rest ≤ rest.length ∧ response = rest.take (sizeField rest) := by
  constructor
  · rintro ⟨hPrefix, hHeader, hSize⟩
    have hField : sizeField rest = response.length := by
      rw [← hSize, List.prefix_iff_eq_take.mp hPrefix, sizeField_take rest hHeader]
    rw [hField]
    exact ⟨hHeader, hPrefix.length_le, List.prefix_iff_eq_take.mp hPrefix⟩
  · rintro ⟨hHeader, hRest, rfl⟩
    have hLength := List.length_take_of_le hRest
    refine ⟨List.take_prefix _ _, hLength.symm ▸ hHeader, ?_⟩
    rw [hLength, sizeField_take rest hHeader]

/-- A response that leads some octets is **not refused for its length**. -/
theorem Leads.body_ne {response rest : Bytes} (h : Leads response rest) (stated : UInt32)
    (n : Nat) : body response ≠ .error (.truncated n) ∧
      body response ≠ .error (.sizeMismatch stated n) := by
  have hSize : (statedSize response).toNat = response.length := by
    rw [toNat_statedSize, h.size]
  rw [body, if_neg (Nat.not_lt.mpr h.header), if_neg (not_not.mpr hSize)]
  split <;> simp

end Response

namespace PlainFile

/-! ### Writing -/

/-- What is in front of the position is as long as the position tells. -/
theorem length_front (f : PlainFile) : f.front.length = f.position := by
  rw [front, List.length_rightpad, List.length_take]
  omega

/-- The octets in front of the position are those of the file. -/
theorem getElem?_front {f : PlainFile} {i : Nat} {octet : UInt8} (h : i < f.position)
    (hOctet : f.content[i]? = some octet) : f.front[i]? = some octet := by
  have hTake : (f.content.take f.position)[i]? = some octet := by
    rwa [List.getElem?_take_of_lt h]
  rw [front, List.rightpad, List.getElem?_append_left (List.getElem?_eq_some_iff.mp hTake).1, hTake]

/-- What is written stands between what was in front of the position and what was behind it. -/
theorem content_write {b : Bytes} (h : b ≠ []) (f : PlainFile) :
    (f.write b).content = f.front ++ (b ++ f.content.drop (f.position + b.length)) := by
  rw [write, if_neg (by rwa [List.isEmpty_iff]), List.append_assoc]

/-- The position moves by what is written. -/
@[simp] theorem position_write (f : PlainFile) (b : Bytes) :
    (f.write b).position = f.position + b.length := by
  cases b with
  | nil => rfl
  | cons octet b => rfl

/-- **What is written** stands at the position, and behind it what was there before. -/
theorem drop_write (f : PlainFile) (b : Bytes) :
    (f.write b).content.drop f.position = b ++ f.content.drop (f.position + b.length) := by
  by_cases h : b = []
  · subst h
    rfl
  · rw [content_write h, List.drop_left' (length_front f)]

/-- **No other octet** of the file is changed. -/
theorem getElem?_write {f : PlainFile} {b : Bytes} {i : Nat} {octet : UInt8}
    (h : i < f.position ∨ f.position + b.length ≤ i) (hOctet : f.content[i]? = some octet) :
    (f.write b).content[i]? = some octet := by
  by_cases hEmpty : b = []
  · subst hEmpty
    exact hOctet
  rcases h with hFront | hBehind
  · have hLt : i < f.front.length := by rwa [length_front]
    rw [content_write hEmpty, List.getElem?_append_left hLt]
    exact getElem?_front hFront hOctet
  · have hSplit : i = f.position + (b.length + (i - (f.position + b.length))) := by omega
    calc (f.write b).content[i]?
        = ((f.write b).content.drop f.position)[b.length + (i - (f.position + b.length))]? := by
          rw [List.getElem?_drop, ← hSplit]
      _ = f.content[f.position + b.length + (i - (f.position + b.length))]? := by
          rw [drop_write, List.getElem?_append_right (Nat.le_add_right _ _),
            Nat.add_sub_cancel_left, List.getElem?_drop]
      _ = some octet := by rwa [Nat.add_sub_cancel' hBehind]

/-- A file **never shrinks**. -/
theorem length_le_length_write (f : PlainFile) (b : Bytes) :
    f.content.length ≤ (f.write b).content.length := by
  by_cases h : b = []
  · subst h
    exact Nat.le_refl _
  · rw [content_write h]
    simp only [List.length_append, List.length_drop, length_front]
    omega

/-! ### One exchange -/

/-- What octets behind a command are **answered** as, and how many of them are used up. -/
inductive Answers (rest : Bytes) : Except TransportFault Bytes → Nat → Prop
  /-- They begin with as many as the header states. -/
  | response : TpmCommand.headerSize ≤ Response.sizeField rest →
      Response.sizeField rest ≤ rest.length →
      Answers rest (.ok (rest.take (Response.sizeField rest))) (Response.sizeField rest)
  /-- They are fewer than a header has. -/
  | noHeader : rest.length < TpmCommand.headerSize →
      Answers rest (.error (.headerNotRead .endOfData)) rest.length
  /-- The header states less than its own size. -/
  | tooSmall : TpmCommand.headerSize ≤ rest.length →
      Response.sizeField rest < TpmCommand.headerSize →
      Answers rest (.error (.sizeTooSmall (Response.statedSize rest))) TpmCommand.headerSize
  /-- They are fewer than the header states. -/
  | noBody : TpmCommand.headerSize ≤ rest.length →
      TpmCommand.headerSize ≤ Response.sizeField rest →
      rest.length < Response.sizeField rest →
      Answers rest (.error (.bodyNotRead .endOfData)) rest.length

/-- As much as is asked for is read if there is as much. -/
theorem read_of_le {f : PlainFile} {n : Nat} (h : n ≤ (f.content.drop f.position).length) :
    f.read n = (.ok ((f.content.drop f.position).take n), { f with position := f.position + n }) :=
  if_pos h

/-- Less than is asked for is not a response, and the position moves to the end. -/
theorem read_of_lt {f : PlainFile} {n : Nat} (h : (f.content.drop f.position).length < n) :
    f.read n = (.error .endOfData,
      { f with position := f.position + (f.content.drop f.position).length }) :=
  if_neg (Nat.not_le.mpr h)

variable {α : Type}

/-- To write a command never fails. -/
theorem bind_write (b : Bytes) (next : Except ChannelFault Unit → StateM PlainFile α)
    (f : PlainFile) : (channel.write b >>= next) f = next (.ok ()) (f.write b) := rfl

/-- What follows a read goes on with the octets that were read, or without them. -/
theorem bind_read (n : Nat) (next : Except ChannelFault Bytes → StateM PlainFile α)
    (f : PlainFile) : (channel.read n >>= next) f = next (f.read n).1 (f.read n).2 := rfl

/-- The exchange, **one step after the other**. -/
theorem exchange_eq (command : Bytes) (f : PlainFile) :
    channel.exchange command f =
      match (f.write command).read TpmCommand.headerSize with
      | (.error fault, g) => (.error (.headerNotRead fault), g)
      | (.ok header, g) =>
        if (Response.statedSize header).toNat < TpmCommand.headerSize then
          (.error (.sizeTooSmall (Response.statedSize header)), g)
        else
          match g.read ((Response.statedSize header).toNat - TpmCommand.headerSize) with
          | (.error fault, g) => (.error (.bodyNotRead fault), g)
          | (.ok body, g) => (.ok (header ++ body), g) := by
  rw [Channel.exchange, bind_write]
  dsimp only
  rw [bind_read]
  rcases (f.write command).read TpmCommand.headerSize with ⟨fault | header, g⟩
  · rfl
  dsimp only
  split
  · rfl
  rw [bind_read]
  rcases g.read ((Response.statedSize header).toNat - TpmCommand.headerSize) with ⟨fault | body, g⟩
  · rfl
  · rfl

/-- What is behind a command was there before. -/
theorem rest_write (f : PlainFile) (b : Bytes) :
    (f.write b).content.drop (f.write b).position = f.content.drop (f.position + b.length) := by
  rw [position_write, ← List.drop_drop, drop_write, List.drop_left]

/-- **How an exchange ends.** The octets behind the command are answered, and the position is
behind those that are used up. -/
theorem exists_answers (command : Bytes) (f : PlainFile) :
    ∃ answer used, Answers (f.content.drop (f.position + command.length)) answer used ∧
      channel.exchange command f =
        (answer, ⟨(f.write command).content, f.position + command.length + used⟩) := by
  rw [exchange_eq, ← rest_write, ← position_write]
  generalize f.write command = g
  obtain hHeader | hHeader := Nat.lt_or_ge (g.content.drop g.position).length TpmCommand.headerSize
  · rw [read_of_lt hHeader]
    exact ⟨_, _, .noHeader hHeader, rfl⟩
  rw [read_of_le hHeader]
  dsimp only
  rw [Response.statedSize_take _ (Nat.le_refl _), Response.toNat_statedSize]
  split
  · rename_i hSmall
    exact ⟨_, _, .tooSmall hHeader hSmall, rfl⟩
  rename_i hSize
  have hSize := Nat.not_lt.mp hSize
  generalize hRest : g.content.drop g.position = rest at *
  -- The body is read behind the header.
  have hBehind : g.content.drop (g.position + TpmCommand.headerSize) =
      rest.drop TpmCommand.headerSize := by rw [← hRest, List.drop_drop]
  obtain hBody | hBody := Nat.lt_or_ge rest.length (Response.sizeField rest)
  · refine ⟨_, _, .noBody hHeader hSize hBody, ?_⟩
    rw [read_of_lt (by rw [hBehind, List.length_drop]; omega)]
    simp only [hBehind, List.length_drop, Nat.add_assoc, Nat.add_sub_cancel' hHeader]
  · refine ⟨_, _, .response hSize hBody, ?_⟩
    rw [read_of_le (by rw [hBehind, List.length_drop]; omega)]
    simp only [hBehind, ← List.take_add, Nat.add_assoc, Nat.add_sub_cancel' hSize]

/-- There is **one** answer: the four ends exclude each other. -/
theorem Answers.unique {rest : Bytes} {answer answer' : Except TransportFault Bytes}
    {used used' : Nat} (h : Answers rest answer used) (h' : Answers rest answer' used') :
    answer = answer' ∧ used = used' := by
  cases h with
  | response _ _ =>
      cases h' with
      | response _ _ => exact ⟨rfl, rfl⟩
      | _ => omega
  | noHeader _ =>
      cases h' with
      | noHeader _ => exact ⟨rfl, rfl⟩
      | _ => omega
  | tooSmall _ _ =>
      cases h' with
      | tooSmall _ _ => exact ⟨rfl, rfl⟩
      | _ => omega
  | noBody _ _ _ =>
      cases h' with
      | noBody _ _ _ => exact ⟨rfl, rfl⟩
      | _ => omega

/-- The answer is **a response** just when one leads the octets. -/
theorem Answers.eq_ok_iff {rest : Bytes} {answer : Except TransportFault Bytes} {used : Nat}
    (h : Answers rest answer used) {response : Bytes} :
    answer = .ok response ↔ Response.Leads response rest := by
  rw [Response.leads_iff]
  constructor
  · rintro rfl
    cases h with
    | response hHeader hRest => exact ⟨hHeader, hRest, rfl⟩
  · rintro ⟨hHeader, hRest, rfl⟩
    exact (h.unique (.response hHeader hRest)).1

/-- A response uses up its own octets. -/
theorem Answers.used_eq {rest response : Bytes} {used : Nat}
    (h : Answers rest (.ok response) used) : used = response.length := by
  cases h with
  | response _ hRest => exact (List.length_take_of_le hRest).symm

/-! ### Commands one after the other -/

/-- A **turn**: the file that a command is sent to, and the command. -/
structure Turn where
  /-- The file in front of the command. -/
  before : PlainFile
  /-- The command. -/
  command : Bytes

namespace Turn

/-- What the command is answered as. -/
def answer (turn : Turn) : Except TransportFault Bytes :=
  (channel.exchange turn.command turn.before).1

/-- The file behind the exchange. -/
def after (turn : Turn) : PlainFile :=
  (channel.exchange turn.command turn.before).2

/-- The octets of the file behind the command. -/
def rest (turn : Turn) : Bytes :=
  turn.before.content.drop (turn.before.position + turn.command.length)

/-- The turn **covers** a place of the file when the command is written over it. -/
def Covers (turn : Turn) (i : Nat) : Prop :=
  turn.before.position ≤ i ∧ i < turn.before.position + turn.command.length

/-- The answer of a turn is what the octets behind the command are answered as, and the
position moves over those that are used up. -/
theorem answers (turn : Turn) :
    ∃ used, Answers turn.rest turn.answer used ∧
      turn.after = ⟨(turn.before.write turn.command).content,
        turn.before.position + turn.command.length + used⟩ := by
  obtain ⟨answer, used, hAnswers, hExchange⟩ := exists_answers turn.command turn.before
  rw [Turn.answer, Turn.after, hExchange]
  exact ⟨used, hAnswers, rfl⟩

/-- A turn changes nothing in the file but what its command is written over. -/
theorem content_after (turn : Turn) :
    turn.after.content = (turn.before.write turn.command).content := by
  obtain ⟨used, -, hAfter⟩ := turn.answers
  rw [hAfter]

/-- An **exact** turn. The command is at the position and all behind it is as it was; the
answer is the response that leads the rest, if one does, and then the position is right behind
it; if none does, the answer says why. In no case is the response of a wrong length when it is
taken apart. -/
structure Exact (turn : Turn) : Prop where
  /-- The command is written at the position. -/
  written : (turn.after.content.drop turn.before.position).take turn.command.length = turn.command
  /-- Behind it nothing is changed. -/
  behind : turn.after.content.drop (turn.before.position + turn.command.length) = turn.rest
  /-- The response is what leads the rest. -/
  response : ∀ response, turn.answer = .ok response ↔ Response.Leads response turn.rest
  /-- The position is right behind the response. -/
  position : ∀ response, turn.answer = .ok response →
    turn.after.position = turn.before.position + turn.command.length + response.length
  /-- There may be no header. -/
  noHeader : turn.rest.length < TpmCommand.headerSize →
    turn.answer = .error (.headerNotRead .endOfData)
  /-- The header may state too little. -/
  tooSmall : TpmCommand.headerSize ≤ turn.rest.length →
    Response.sizeField turn.rest < TpmCommand.headerSize →
    turn.answer = .error (.sizeTooSmall (Response.statedSize turn.rest))
  /-- The header may state more than there is. -/
  noBody : TpmCommand.headerSize ≤ turn.rest.length →
    TpmCommand.headerSize ≤ Response.sizeField turn.rest →
    turn.rest.length < Response.sizeField turn.rest →
    turn.answer = .error (.bodyNotRead .endOfData)
  /-- A request that is carried out like this is not refused for the length of its response. -/
  request : ∀ stated n,
    ((Session.request turn.command).run channel.exchange (fun _ => pure ()) turn.before).1 ≠
        .error (.truncated n) ∧
      ((Session.request turn.command).run channel.exchange (fun _ => pure ()) turn.before).1 ≠
        .error (.sizeMismatch stated n)

/-- **Every turn is exact**, by the four ends that it can have. -/
theorem exact (turn : Turn) : turn.Exact := by
  obtain ⟨used, hAnswers, hAfter⟩ := turn.answers
  have hContent := turn.content_after
  exact
    { written := by rw [hContent, drop_write, List.take_left]
      behind := by rw [hContent, ← List.drop_drop, drop_write, List.drop_left, rest]
      response := fun response => hAnswers.eq_ok_iff
      position := fun response hResponse => by
        rw [hResponse] at hAnswers
        rw [hAfter, hAnswers.used_eq]
      noHeader := fun hShort => (hAnswers.unique (.noHeader hShort)).1
      tooSmall := fun hHeader hSmall => (hAnswers.unique (.tooSmall hHeader hSmall)).1
      noBody := fun hHeader hSize hShort => (hAnswers.unique (.noBody hHeader hSize hShort)).1
      request := by
        intro stated n
        change Response.bodyOf turn.answer ≠ _ ∧ Response.bodyOf turn.answer ≠ _
        cases hAnswer : turn.answer with
        | ok response => exact (hAnswers.eq_ok_iff.mp hAnswer).body_ne stated n
        | error fault => simp [Response.bodyOf] }

end Turn

/-- The **turns** of commands that are sent one after the other, each to the file that the one
before it leaves. -/
def turns : List Bytes → PlainFile → List Turn
  | [], _ => []
  | command :: commands, f => ⟨f, command⟩ :: turns commands (Turn.mk f command).after

/-- The file behind all commands. -/
def after : List Bytes → PlainFile → PlainFile
  | [], f => f
  | command :: commands, f => after commands (Turn.mk f command).after

/-- Sending the commands is a turn for each. -/
theorem mapM_exchange (commands : List Bytes) (f : PlainFile) :
    commands.mapM channel.exchange f = ((turns commands f).map Turn.answer, after commands f) := by
  induction commands generalizing f with
  | nil => rfl
  | cons command commands ih =>
      rw [List.mapM_cons]
      change ((Turn.mk f command).answer ::
        (commands.mapM channel.exchange (Turn.mk f command).after).1,
        (commands.mapM channel.exchange (Turn.mk f command).after).2) = _
      rw [ih]
      rfl

/-- There is a turn for each command, in their order. -/
theorem map_command_turns (commands : List Bytes) (f : PlainFile) :
    (turns commands f).map Turn.command = commands := by
  induction commands generalizing f with
  | nil => rfl
  | cons command commands ih => exact congrArg (command :: ·) (ih _)

/-- **What the commands leave alone**: an octet stays unless a command is written over it. -/
theorem getElem?_after {commands : List Bytes} {f : PlainFile} {i : Nat} {octet : UInt8}
    (h : ∀ turn ∈ turns commands f, ¬ turn.Covers i) (hOctet : f.content[i]? = some octet) :
    (after commands f).content[i]? = some octet := by
  induction commands generalizing f with
  | nil => exact hOctet
  | cons command commands ih =>
      obtain ⟨hFirst, hRest⟩ := List.forall_mem_cons.mp h
      refine ih hRest ?_
      rw [Turn.content_after]
      refine getElem?_write ?_ hOctet
      rw [Turn.Covers] at hFirst
      omega

/-- Commands never make a file shorter. -/
theorem length_le_length_after (commands : List Bytes) (f : PlainFile) :
    f.content.length ≤ (after commands f).content.length := by
  induction commands generalizing f with
  | nil => exact Nat.le_refl _
  | cons command commands ih =>
      calc f.content.length
          ≤ (f.write command).content.length := length_le_length_write f command
        _ = (Turn.mk f command).after.content.length := by rw [Turn.content_after]
        _ ≤ (after commands (Turn.mk f command).after).content.length := ih _

/-- **What commands do to a file and get from it.** They are sent turn by turn, and every turn
is exact. An octet of the file stays as it is unless a command is written over it, and the file
never shrinks. -/
theorem turns_exact (commands : List Bytes) (f : PlainFile) :
    commands.mapM channel.exchange f = ((turns commands f).map Turn.answer, after commands f) ∧
    (turns commands f).map Turn.command = commands ∧
    (∀ turn ∈ turns commands f, turn.Exact) ∧
    (∀ i octet, f.content[i]? = some octet → (∀ turn ∈ turns commands f, ¬ turn.Covers i) →
      (after commands f).content[i]? = some octet) ∧
    f.content.length ≤ (after commands f).content.length := by
  refine ⟨mapM_exchange commands f, map_command_turns commands f, fun turn _ => turn.exact, ?_,
    length_le_length_after commands f⟩
  intro i octet hOctet hCovers
  exact getElem?_after hCovers hOctet

/-! ### A file with two responses -/

namespace TwoResponses

def first : Bytes := [0x80, 1, 0, 0, 0, 12, 0, 0, 0, 0, 7, 7]

def second : Bytes := [0x80, 1, 0, 0, 0, 10, 0, 0, 1, 1]

/-- A file with room for a command in front of each response. -/
def file : PlainFile := .opened ([0, 0, 0] ++ first ++ [5, 5] ++ second)

/-- The second command fills its room, and the third makes the file longer. -/
def commands : List Bytes := [[1, 2, 3], [4, 4], [9]]

end TwoResponses

open TwoResponses in
/-- Both responses come back, the third command has none, and the first response is still
there. -/
theorem turns_exact_of_two_responses :
    (commands.mapM channel.exchange file).1 =
        [.ok first, .ok second, .error (.headerNotRead .endOfData)] ∧
      (∃ turn ∈ turns commands file, turn.Exact) ∧
      (after commands file).content[8]? = some 12 ∧
      file.content.length ≤ (after commands file).content.length := by
  obtain ⟨hAnswers, -, hExact, hKept, hLength⟩ := turns_exact commands file
  refine ⟨by rw [hAnswers]; decide, ⟨_, List.mem_cons_self, hExact _ List.mem_cons_self⟩,
    hKept 8 12 (by decide) ?_, hLength⟩
  simp only [commands, turns, List.forall_mem_cons, Turn.Covers]
  decide

end PlainFile

end RemoteAttestation
