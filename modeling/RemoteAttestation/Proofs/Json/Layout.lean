import RemoteAttestation.Proofs.Json.Scalar

/-!
# Laid Out Values

A value that is laid out over lines is read back as what it was. Blanks do not matter to the
reader, and a value is recognised by its first character, which no blank and no closing bracket
is. Behind a value stands a comma or a new line, so a number is read to its last digit and no
further.

The reader has a budget of steps. A laid out value takes at most two for each of its
characters, and this is what the induction carries: an item is read with the budget that its
own characters allow (`Json.Reads`).

## Main results

* `Json.reads`: a laid out value is read back, whatever follows it.
* `JsonDocument.ofText_pretty`: the document of a laid out value.
-/

namespace RemoteAttestation

namespace JsonSource

/-! ### Blanks -/

/-- A character that is no blank is not skipped. -/
theorem skipBlanks_cons {c : Char} (h : c ∉ [' ', '\n', '\t', '\r']) (text : List Char) :
    skipBlanks (c :: text) = c :: text := by
  simp only [List.mem_cons, List.not_mem_nil, or_false, not_or] at h
  simp [skipBlanks, h]

/-- A blank is skipped. -/
@[simp] theorem skipBlanks_blank (text : List Char) : skipBlanks (' ' :: text) = skipBlanks text :=
  rfl

/-- A line feed is skipped with all the blanks that indent the new line. -/
@[simp] theorem skipBlanks_newLine (depth : Nat) (text : List Char) :
    skipBlanks (Json.newLine depth ++ text) = skipBlanks text := by
  rw [Json.newLine, List.cons_append]
  change skipBlanks (List.replicate (2 * depth) ' ' ++ text) = _
  induction 2 * depth with
  | zero => rfl
  | succ n ih => rw [List.replicate_succ, List.cons_append, skipBlanks_blank, ih]

/-- Blanks in front of a value do not matter. -/
theorem readValue_congr {text text' : List Char} (h : skipBlanks text = skipBlanks text')
    (steps : Nat) : readValue steps text = readValue steps text' := by
  cases steps with
  | zero => rfl
  | succ steps => rw [readValue, readValue, h]

/-! ### The first character -/

/-- What begins neither a list nor an object is read as a scalar. -/
theorem readValue_scalar {text : List Char} (hArray : ∀ rest, skipBlanks text ≠ '[' :: rest)
    (hObject : ∀ rest, skipBlanks text ≠ '\x7b' :: rest) (steps : Nat) :
    readValue (steps + 1) text = readScalar (skipBlanks text) := by
  rw [readValue]
  split
  · rename_i rest hText
    exact absurd hText (hArray rest)
  · rename_i rest hText
    exact absurd hText (hObject rest)
  · rfl

/-- A bracket that is not closed at once begins a list of items. -/
theorem readValue_array {text : List Char} (h : ∀ rest, skipBlanks text ≠ ']' :: rest)
    (steps : Nat) :
    readValue (steps + 1) ('[' :: text) =
      (array (readItems steps text).1 (readItems steps text).2.1, (readItems steps text).2.2) := by
  rw [readValue, skipBlanks_cons (by decide)]
  split
  · rename_i rest hText
    obtain rfl := (List.cons.inj hText).2
    split
    · rename_i rest hClose
      exact absurd hClose (h rest)
    · rfl
  · rename_i rest hText
    exact absurd (List.cons.inj hText).1 (by decide)
  · rename_i hNoArray _
    exact (hNoArray text rfl).elim

theorem readValue_object {text : List Char} (h : ∀ rest, skipBlanks text ≠ '\x7d' :: rest)
    (steps : Nat) :
    readValue (steps + 1) ('\x7b' :: text) =
      (object (readMembers steps text).1 (readMembers steps text).2.1,
        (readMembers steps text).2.2) := by
  rw [readValue, skipBlanks_cons (by decide)]
  split
  · rename_i rest hText
    exact absurd (List.cons.inj hText).1 (by decide)
  · rename_i rest hText
    obtain rfl := (List.cons.inj hText).2
    split
    · rename_i rest hClose
      exact absurd hClose (h rest)
    · rfl
  · rename_i _ hNoObject
    exact (hNoObject text rfl).elim

/-! ### Items and members -/

/-- An item and the comma behind it. -/
theorem readItems_comma {steps : Nat} {text rest : List Char} {item : JsonSource}
    (h : readValue steps text = (item, ',' :: rest)) (hComplete : item.isComplete = true) :
    readItems (steps + 1) text =
      (item :: (readItems steps rest).1, (readItems steps rest).2.1,
        (readItems steps rest).2.2) := by
  rw [readItems, h]
  dsimp only
  rw [hComplete, skipBlanks_cons (by decide)]
  rfl

/-- The last item and the closing bracket behind it. -/
theorem readItems_close {steps depth : Nat} {text rest : List Char} {item : JsonSource}
    (h : readValue steps text = (item, Json.newLine depth ++ ']' :: rest))
    (hComplete : item.isComplete = true) :
    readItems (steps + 1) text = ([item], true, rest) := by
  rw [readItems, h]
  dsimp only
  rw [hComplete, skipBlanks_newLine, skipBlanks_cons (by decide)]
  rfl

/-- The name of a member, behind any blanks. -/
theorem readName?_quote (depth : Nat) (name : String) (rest : List Char) :
    readName? (Json.newLine depth ++ (Json.quote name ++ ':' :: rest)) =
      some (some name, rest) := by
  rw [readName?, skipBlanks_newLine, Json.quote, List.append_assoc, List.cons_append,
    List.singleton_append, skipBlanks_cons (by decide)]
  simp only [readString?_quote]
  rw [skipBlanks_cons (by decide)]
  rfl

/-- A member and the comma behind it. -/
theorem readMembers_comma {steps : Nat} {text afterName rest : List Char} {name : Option String}
    {value : JsonSource} (hName : readName? text = some (name, afterName))
    (h : readValue steps afterName = (value, ',' :: rest)) (hComplete : value.isComplete = true) :
    readMembers (steps + 1) text =
      ((name, value) :: (readMembers steps rest).1, (readMembers steps rest).2.1,
        (readMembers steps rest).2.2) := by
  rw [readMembers, hName]
  dsimp only
  rw [h]
  dsimp only
  rw [hComplete, skipBlanks_cons (by decide)]
  rfl

/-- The last member and the closing brace behind it. -/
theorem readMembers_close {steps depth : Nat} {text afterName rest : List Char}
    {name : Option String} {value : JsonSource} (hName : readName? text = some (name, afterName))
    (h : readValue steps afterName = (value, Json.newLine depth ++ '\x7d' :: rest))
    (hComplete : value.isComplete = true) :
    readMembers (steps + 1) text = ([(name, value)], true, rest) := by
  rw [readMembers, hName]
  dsimp only
  rw [h]
  dsimp only
  rw [hComplete, skipBlanks_newLine, skipBlanks_cons (by decide)]
  rfl

end JsonSource

namespace Json

open JsonSource

/-! ### Sources of values -/

mutual

/-- The **source** that a laid out value is read as. -/
def source : Json → JsonSource
  | bool b => .bool b
  | number n => .number (numeral n)
  | string text => .string (some text)
  | array items => .array (sources items) true
  | object members => .object (memberSources members) true

/-- The sources of items. -/
def sources : List Json → List JsonSource
  | [] => []
  | item :: items => source item :: sources items

/-- The sources of members. -/
def memberSources : List (String × Json) → List (Option String × JsonSource)
  | [] => []
  | (name, value) :: members => (some name, source value) :: memberSources members

end

/-- What is read of a value is complete. -/
theorem isComplete_source (v : Json) : (source v).isComplete = true := by
  cases v <;> rfl

/-- What is read of some values is read of them one by one. -/
theorem sources_eq_map (items : List Json) : sources items = items.map source := by
  induction items with
  | nil => rfl
  | cons item items ih => rw [sources, ih, List.map_cons]

theorem memberSources_eq_map (members : List (String × Json)) :
    memberSources members = members.map fun member => (some member.1, source member.2) := by
  induction members with
  | nil => rfl
  | cons member members ih => rw [memberSources, ih, List.map_cons]

/-- The members that an object is read as. -/
theorem members?_memberSources (members : List (String × Json)) :
    (JsonSource.object (memberSources members) true).members? =
      some (members.map fun member => (member.1, source member.2)) := by
  rw [JsonSource.members?]
  induction members with
  | nil => rfl
  | cons member members ih =>
      obtain ⟨name, value⟩ := member
      rw [memberSources, List.mapM_cons, ih]
      rfl

/-- The **first character** of a laid out value. -/
theorem exists_layout_eq_cons (depth : Nat) (v : Json) :
    ∃ c text, layout depth v = c :: text ∧ c ∉ [' ', '\n', '\t', '\r'] ∧ c ≠ ']' := by
  cases v with
  | bool b => cases b <;> exact ⟨_, _, rfl, by decide, by decide⟩
  | number n =>
      cases hText : Nat.toDigits 10 n with
      | nil => exact absurd hText Nat.toDigits_ne_nil
      | cons c cs =>
          have hDigit : c.isDigit = true :=
            Numeral.isDigit_of_mem_toDigits (n := n) (hText ▸ List.mem_cons_self)
          refine ⟨c, cs, hText, ?_, ?_⟩
          · intro hMem
            simp only [List.mem_cons, List.not_mem_nil, or_false] at hMem
            rcases hMem with rfl | rfl | rfl | rfl <;> cases hDigit
          · rintro rfl
            cases hDigit
  | string text => exact ⟨_, _, rfl, by decide, by decide⟩
  | array items => cases items <;> exact ⟨_, _, rfl, by decide, by decide⟩
  | object members => cases members <;> exact ⟨_, _, rfl, by decide, by decide⟩

/-- A value is not printed with a blank in front. -/
theorem skipBlanks_layout (depth : Nat) (v : Json) (rest : List Char) :
    skipBlanks (layout depth v ++ rest) = layout depth v ++ rest := by
  obtain ⟨c, text, hText, hBlank, -⟩ := exists_layout_eq_cons depth v
  rw [hText, List.cons_append, skipBlanks_cons hBlank]

/-! ### Reading a layout -/

/-- A value **reads** when its layout is read back, with two steps for each of its
characters. -/
def Reads (v : Json) : Prop :=
  ∀ (depth steps : Nat) (rest : List Char), Follows rest → 2 * (layout depth v).length ≤ steps →
    readValue steps (layout depth v ++ rest) = (source v, rest)

/-- The items of a list are read as far as the closing bracket, **if each is read by
itself**. -/
theorem readItems_layout {item : Json} {items : List Json} (hItem : Reads item)
    (hItems : ∀ other ∈ items, Reads other) (depth steps closing : Nat) (rest : List Char)
    (h : 2 * ((layout depth item).length + (layoutItems depth items).length) + 1 ≤ steps) :
    readItems steps (newLine depth ++ (layout depth item ++ (layoutItems depth items ++
      (newLine closing ++ ']' :: rest)))) = (sources (item :: items), true, rest) := by
  induction items generalizing item steps with
  | nil =>
      obtain ⟨steps, rfl⟩ : ∃ n, steps = n + 1 := ⟨steps - 1, by omega⟩
      have hRead := hItem depth steps _ (follows_newLine closing (']' :: rest)) (by omega)
      exact readItems_close ((readValue_congr (skipBlanks_newLine _ _) _).trans hRead)
        (isComplete_source item)
  | cons next items ih =>
      obtain ⟨hNext, hRest⟩ := List.forall_mem_cons.mp hItems
      obtain ⟨steps, rfl⟩ : ∃ n, steps = n + 1 := ⟨steps - 1, by omega⟩
      simp only [layoutItems, List.length_append, List.length_cons] at h
      have hRead := hItem depth steps _ (follows_comma (newLine depth ++ (layout depth next ++
        (layoutItems depth items ++ (newLine closing ++ ']' :: rest))))) (by omega)
      have hOthers := ih hNext hRest steps (by omega)
      simp only [layoutItems, List.cons_append, List.append_assoc]
      rw [readItems_comma ((readValue_congr (skipBlanks_newLine _ _) _).trans hRead)
        (isComplete_source item), hOthers]
      rfl

/-- The members of an object are read as far as the closing brace, **if the value of each is
read by itself**. -/
theorem readMembers_layout (name : String) {value : Json} {members : List (String × Json)}
    (hValue : Reads value) (hMembers : ∀ other ∈ members, Reads other.2)
    (depth steps closing : Nat) (rest : List Char)
    (h : 2 * ((layout depth value).length + (layoutMembers depth members).length) + 1 ≤ steps) :
    readMembers steps (newLine depth ++ (quote name ++ ':' :: ' ' :: (layout depth value ++
      (layoutMembers depth members ++ (newLine closing ++ '\x7d' :: rest))))) =
        (memberSources ((name, value) :: members), true, rest) := by
  induction members generalizing name value steps with
  | nil =>
      obtain ⟨steps, rfl⟩ : ∃ n, steps = n + 1 := ⟨steps - 1, by omega⟩
      have hRead := hValue depth steps _ (follows_newLine closing ('\x7d' :: rest)) (by omega)
      exact readMembers_close (readName?_quote depth name _)
        ((readValue_congr (skipBlanks_blank _) _).trans hRead) (isComplete_source value)
  | cons next members ih =>
      obtain ⟨nextName, nextValue⟩ := next
      have hNext : Reads nextValue := hMembers _ List.mem_cons_self
      have hRest := fun other hOther => hMembers other (List.mem_cons_of_mem _ hOther)
      obtain ⟨steps, rfl⟩ : ∃ n, steps = n + 1 := ⟨steps - 1, by omega⟩
      simp only [layoutMembers, List.length_append, List.length_cons] at h
      have hRead := hValue depth steps _ (follows_comma (newLine depth ++ (quote nextName ++
        ':' :: ' ' :: (layout depth nextValue ++ (layoutMembers depth members ++
          (newLine closing ++ '\x7d' :: rest)))))) (by omega)
      have hOthers := ih nextName hNext hRest steps (by omega)
      simp only [layoutMembers, List.cons_append, List.append_assoc]
      rw [readMembers_comma (readName?_quote depth name _)
        ((readValue_congr (skipBlanks_blank _) _).trans hRead) (isComplete_source value), hOthers]
      rfl

/-- A value that is neither a list nor an object reads when its text is that of a scalar. -/
theorem Reads.of_scalar {v : Json}
    (h : ∀ depth rest, Follows rest → readScalar (layout depth v ++ rest) = (source v, rest))
    (hFirst : ∀ depth c text, layout depth v = c :: text → c ≠ '[' ∧ c ≠ '\x7b') : Reads v := by
  intro depth steps rest hRest hSteps
  obtain ⟨c, text, hText, -, -⟩ := exists_layout_eq_cons depth v
  obtain ⟨hArray, hObject⟩ := hFirst depth c text hText
  obtain ⟨steps, rfl⟩ : ∃ n, steps = n + 1 := ⟨steps - 1, by
    rw [hText, List.length_cons] at hSteps
    omega⟩
  rw [readValue_scalar, skipBlanks_layout, h depth rest hRest]
  · intro other hEq
    rw [skipBlanks_layout, hText] at hEq
    exact hArray (List.cons.inj hEq).1
  · intro other hEq
    rw [skipBlanks_layout, hText] at hEq
    exact hObject (List.cons.inj hEq).1

mutual

/-- **A laid out value is read back.** -/
theorem reads : (v : Json) → Reads v
  | bool b => by
      refine .of_scalar (fun _ rest _ => readScalar_bool b rest) ?_
      cases b <;> rintro _ c text hText <;> obtain ⟨rfl, -⟩ := List.cons.inj hText <;> decide
  | number n => by
      refine .of_scalar (fun _ rest hRest => readScalar_number n hRest) ?_
      intro depth c text hText
      rw [layout] at hText
      have hDigit : c.isDigit = true :=
        Numeral.isDigit_of_mem_toDigits (n := n) (hText ▸ List.mem_cons_self)
      constructor <;> rintro rfl <;> cases hDigit
  | string text => by
      refine .of_scalar (fun _ rest _ => readScalar_string text rest) ?_
      intro depth c text hText
      obtain ⟨rfl, -⟩ := List.cons.inj hText
      decide
  | array [] => by
      intro depth steps rest _ hSteps
      obtain ⟨steps, rfl⟩ : ∃ n, steps = n + 1 := ⟨steps - 1, by simp [layout] at hSteps; omega⟩
      rfl
  | array (item :: items) => by
      intro depth steps rest _ hSteps
      simp only [layout, List.length_append, List.length_cons] at hSteps
      obtain ⟨steps, rfl⟩ : ∃ n, steps = n + 1 := ⟨steps - 1, by omega⟩
      have hItems := readItems_layout (reads item) (reads_of_mem items) (depth + 1) steps depth rest
        (by omega)
      simp only [layout, List.cons_append, List.append_assoc, List.nil_append]
      rw [readValue_array, hItems, source]
      intro other hOther
      rw [skipBlanks_newLine, skipBlanks_layout] at hOther
      obtain ⟨c, text, hText, -, hNe⟩ := exists_layout_eq_cons (depth + 1) item
      rw [hText] at hOther
      exact hNe (List.cons.inj hOther).1
  | object [] => by
      intro depth steps rest _ hSteps
      obtain ⟨steps, rfl⟩ : ∃ n, steps = n + 1 := ⟨steps - 1, by simp [layout] at hSteps; omega⟩
      rfl
  | object ((name, value) :: members) => by
      intro depth steps rest _ hSteps
      simp only [layout, List.length_append, List.length_cons] at hSteps
      obtain ⟨steps, rfl⟩ : ∃ n, steps = n + 1 := ⟨steps - 1, by omega⟩
      have hMembers := readMembers_layout name (reads value) (reads_of_mem_members members)
        (depth + 1) steps depth rest (by omega)
      simp only [layout, List.cons_append, List.append_assoc, List.nil_append]
      rw [readValue_object, hMembers, source]
      intro other hOther
      rw [skipBlanks_newLine, quote, List.append_assoc, List.cons_append,
        skipBlanks_cons (by decide)] at hOther
      exact absurd (List.cons.inj hOther).1 (by decide)

/-- The items of a list are read, by the mutual induction on values. -/
theorem reads_of_mem : (items : List Json) → ∀ item ∈ items, Reads item
  | [] => nofun
  | item :: items => List.forall_mem_cons.mpr ⟨reads item, reads_of_mem items⟩

theorem reads_of_mem_members : (members : List (String × Json)) → ∀ member ∈ members, Reads member.2
  | [] => nofun
  | (_, value) :: members =>
    List.forall_mem_cons.mpr ⟨reads value, reads_of_mem_members members⟩

end

end Json

/-- **The document of a laid out value** is the value, with or without a new line at its
end. -/
theorem JsonDocument.ofText_pretty (v : Json) (tail : String) (hTail : tail = "" ∨ tail = "\n") :
    JsonDocument.ofText (v.pretty ++ tail) = ⟨v.source, true⟩ := by
  have hFollows : JsonSource.Follows tail.toList := by
    rcases hTail with rfl | rfl
    · nofun
    · exact fun _ h => .inr (Option.some.inj h).symm
  have hBlank : JsonSource.skipBlanks tail.toList = [] := by
    rcases hTail with rfl | rfl <;> rfl
  have hText : (v.pretty ++ tail).toList = Json.layout 0 v ++ tail.toList := by
    rw [String.toList_append, Json.pretty, String.toList_ofList]
  have hRead := v.reads 0 (2 * (Json.layout 0 v ++ tail.toList).length + 2) tail.toList hFollows
    (by rw [List.length_append]; omega)
  rw [JsonDocument.ofText, JsonSource.read, hText, hRead]
  dsimp only
  rw [hBlank, List.isEmpty_nil]

end RemoteAttestation
