import RemoteAttestation.Pem
import RemoteAttestation.Proofs.Results
import RemoteAttestation.Proofs.Text.Lines

/-!
# What a Text Must Be to Have Blocks

The blocks of a label are read line by line, and the only thing that is kept on the way is the
text of the block that is open. So what counts of the lines before an end is where the last
beginning among them stands (`Pem.blocksFrom_block`): whatever was read before it is dropped,
and what comes after it, up to the end, is the block.

This gives the lines that can be read a form of their own (`Pem.Holds`): they fall into pieces,
each of which ends with the end of a block and has one block in it, and behind the last of them
no marker of the label stands any more. Every other text is refused.

## Main results

* `Pem.blocks_eq_ok_iff`: the texts that are read, and what is read in them.
* `Pem.blocksFrom_of_open`: a block that is not ended.
-/

namespace RemoteAttestation.Pem

variable {label : String} {line : List Char} {lines : List (List Char)}

/-! ### Markers -/

/-- The hyphens at both ends of a marker. -/
def hyphens : List Char :=
  List.replicate 5 '-'

/-- A text **between hyphens**, as the markers are. -/
def fenced (inner : List Char) : List Char :=
  hyphens ++ inner ++ hyphens

/-- A marker for a beginning is fenced by hyphens. -/
theorem toList_beginMarker (label : String) :
    (beginMarker label).toList = fenced ("BEGIN ".toList ++ label.toList) := by
  change ("-----BEGIN " ++ label ++ "-----").toList = _
  rw [String.toList_append, String.toList_append]
  rfl

theorem toList_endMarker (label : String) :
    (endMarker label).toList = fenced ("END ".toList ++ label.toList) := by
  change ("-----END " ++ label ++ "-----").toList = _
  rw [String.toList_append, String.toList_append]
  rfl

/-- A marker begins with a hyphen. -/
theorem head?_fenced (inner : List Char) : (fenced inner).head? = some '-' :=
  rfl

/-- A marker ends with a hyphen. -/
theorem getLast?_fenced (inner : List Char) : (fenced inner).getLast? = some '-' := by
  rw [fenced, List.getLast?_append]
  rfl

/-- So it ends with nothing else. -/
theorem getLast?_fenced_ne {c : Char} (h : c ≠ '-') (inner : List Char) :
    (fenced inner).getLast? ≠ some c := by
  rw [getLast?_fenced]
  exact fun hEq => h (Option.some.inj hEq).symm

theorem fenced_ne_nil (inner : List Char) : fenced inner ≠ [] :=
  nofun

/-- There is a hyphen in every marker. -/
theorem hyphen_mem_fenced (inner : List Char) : '-' ∈ fenced inner :=
  List.mem_of_mem_head? (head?_fenced inner)

/-- Any other character of a marker is inside the fence. -/
theorem mem_fenced_iff {inner : List Char} {c : Char} (h : c ≠ '-') :
    c ∈ fenced inner ↔ c ∈ inner := by
  simp [fenced, hyphens, h]

theorem beginMarker_ne_nil (label : String) : (beginMarker label).toList ≠ [] := by
  rw [toList_beginMarker]
  exact fenced_ne_nil _

/-- A marker has **no line break** when its label has none. -/
theorem feed_not_mem_beginMarker (h : '\n' ∉ label.toList) : '\n' ∉ (beginMarker label).toList := by
  rw [toList_beginMarker, mem_fenced_iff (by decide)]
  simp [h]

/-- Without a line feed in the label there is none in the marker for an end. -/
theorem feed_not_mem_endMarker (h : '\n' ∉ label.toList) : '\n' ∉ (endMarker label).toList := by
  rw [toList_endMarker, mem_fenced_iff (by decide)]
  simp [h]

/-- A marker for a beginning does not end with a carriage return, which a line would lose. -/
theorem getLast?_beginMarker_ne (label : String) :
    (beginMarker label).toList.getLast? ≠ some '\r' := by
  rw [toList_beginMarker]
  exact getLast?_fenced_ne (by decide) _

theorem getLast?_endMarker_ne (label : String) :
    (endMarker label).toList.getLast? ≠ some '\r' := by
  rw [toList_endMarker]
  exact getLast?_fenced_ne (by decide) _

/-- A marker that stands in a padded text stands in the text. -/
theorem fenced_infix_iff {inner piece : List Char} (h : Text.Pads line piece) :
    fenced inner <:+: line ↔ fenced inner <:+: piece := by
  have hHyphen : Text.isBlank '-' = false := by decide
  refine h.infix_iff ?_ ?_
  · rw [head?_fenced]
    rintro c ⟨⟩
    exact hHyphen
  · rw [getLast?_fenced]
    rintro c ⟨⟩
    exact hHyphen

/-! ### Kinds of lines -/

/-- A line **begins** a block when the marker for that stands in it. -/
def Begins (label : String) (line : List Char) : Prop :=
  (beginMarker label).toList <:+: line

/-- A line **ends** a block when the marker for that stands in it, and does not begin one. -/
def Ends (label : String) (line : List Char) : Prop :=
  (endMarker label).toList <:+: line ∧ ¬ Begins label line

/-- A line that **neither** begins nor ends a block: no marker stands in it. -/
def Neither (label : String) (line : List Char) : Prop :=
  ¬ (beginMarker label).toList <:+: line ∧ ¬ (endMarker label).toList <:+: line

/-- A line is taken for a beginning when it **begins** a block. -/
theorem lineKind_eq_begins_iff : lineKind label line = .begins ↔ Begins label line := by
  rw [Begins, ← Text.occursIn_iff, lineKind]
  split
  · simp_all
  · split <;> simp_all

/-- A line is taken for an end when it **ends** a block. -/
theorem lineKind_eq_ends_iff : lineKind label line = .ends ↔ Ends label line := by
  rw [Ends, Begins, ← Text.occursIn_iff, ← Text.occursIn_iff, lineKind]
  split
  · simp_all
  · split <;> simp_all

/-- A line is taken for another one when it does **neither**. -/
theorem lineKind_eq_other_iff : lineKind label line = .other ↔ Neither label line := by
  rw [Neither, ← Text.occursIn_iff, ← Text.occursIn_iff, lineKind]
  split
  · simp_all
  · split <;> simp_all

/-- A line that does neither does not end a block. -/
theorem Neither.not_ends (h : Neither label line) : ¬ Ends label line :=
  fun hEnds => h.2 hEnds.1

/-- A line that begins a block does not end one, even with both markers in it. -/
theorem Begins.not_ends (h : Begins label line) : ¬ Ends label line :=
  fun hEnds => hEnds.2 h

/-- A line that neither begins nor ends a block has no marker in it. -/
theorem neither_of_not (hBegins : ¬ Begins label line) (hEnds : ¬ Ends label line) :
    Neither label line :=
  ⟨hBegins, fun h => hEnds ⟨h, hBegins⟩⟩

/-! ### Reading on -/

/-- A beginning opens a block, and drops one that is open. -/
theorem blocksFrom_begins (h : Begins label line) (open? : Option (List Char)) :
    blocksFrom label open? (line :: lines) = blocksFrom label (some []) lines := by
  simp only [blocksFrom, lineKind_eq_begins_iff.mpr h]

/-- Another line is added to a block that is open, and skipped if none is. -/
theorem blocksFrom_neither (h : Neither label line) (open? : Option (List Char)) :
    blocksFrom label open? (line :: lines) =
      blocksFrom label (open?.map (· ++ Text.trim line)) lines := by
  simp only [blocksFrom, lineKind_eq_other_iff.mpr h]

/-- An end without a beginning is refused. -/
theorem blocksFrom_ends_none (h : Ends label line) :
    blocksFrom label none (line :: lines) = .error (.notBegun label) := by
  simp only [blocksFrom, lineKind_eq_ends_iff.mpr h]

/-- An end closes the block that is open, whose text must be Base64. -/
theorem blocksFrom_ends_some (h : Ends label line) (text : List Char) :
    blocksFrom label (some text) (line :: lines) =
      match Base64.decode text with
      | none => .error .notBase64
      | some content => (content :: ·) <$> blocksFrom label none lines := by
  cases hDecode : Base64.decode text with
  | none => simp only [blocksFrom, lineKind_eq_ends_iff.mpr h, hDecode]
  | some content => simp only [blocksFrom, lineKind_eq_ends_iff.mpr h, hDecode]

/-- Lines without markers are **collected**, if a block is open. -/
theorem blocksFrom_append_neither {body : List (List Char)}
    (h : ∀ line ∈ body, Neither label line) (open? : Option (List Char)) :
    blocksFrom label open? (body ++ lines) =
      blocksFrom label (open?.map (· ++ body.flatMap Text.trim)) lines := by
  induction body generalizing open? with
  | nil => cases open? <;> simp
  | cons line body ih =>
      obtain ⟨hLine, hBody⟩ := List.forall_mem_cons.mp h
      rw [List.cons_append, blocksFrom_neither hLine, ih hBody]
      cases open? <;> simp

/-- A beginning **drops** what was read since the last end. -/
theorem blocksFrom_append_begins {before : List (List Char)}
    (hBefore : ∀ line ∈ before, ¬ Ends label line) (h : Begins label line)
    (open? : Option (List Char)) :
    blocksFrom label open? (before ++ line :: lines) = blocksFrom label (some []) lines := by
  induction before generalizing open? with
  | nil => exact blocksFrom_begins h open?
  | cons other before ih =>
      obtain ⟨hOther, hRest⟩ := List.forall_mem_cons.mp hBefore
      by_cases hBegins : Begins label other
      · rw [List.cons_append, blocksFrom_begins hBegins, ih hRest]
      · rw [List.cons_append, blocksFrom_neither (neither_of_not hBegins hOther), ih hRest]

/-- A block is what stands between **the last beginning** before an end and the end. -/
theorem blocksFrom_block {before body : List (List Char)} {first last : List Char}
    (hBefore : ∀ line ∈ before, ¬ Ends label line) (hFirst : Begins label first)
    (hBody : ∀ line ∈ body, Neither label line) (hLast : Ends label last) :
    blocksFrom label none (before ++ first :: body ++ last :: lines) =
      match Base64.decode (body.flatMap Text.trim) with
      | none => .error .notBase64
      | some content => (content :: ·) <$> blocksFrom label none lines := by
  rw [List.append_assoc, List.cons_append, blocksFrom_append_begins hBefore hFirst,
    blocksFrom_append_neither hBody, Option.map_some, List.nil_append,
    blocksFrom_ends_some hLast]

/-- A block that is open and **not ended** makes a text incomplete. -/
theorem blocksFrom_of_open (h : ∀ line ∈ lines, ¬ Ends label line) (text : List Char) :
    blocksFrom label (some text) lines = .error (.unterminated label) := by
  induction lines generalizing text with
  | nil => rfl
  | cons line lines ih =>
      obtain ⟨hLine, hLines⟩ := List.forall_mem_cons.mp h
      by_cases hBegins : Begins label line
      · rw [blocksFrom_begins hBegins, ih hLines]
      · rw [blocksFrom_neither (neither_of_not hBegins hLine), Option.map_some, ih hLines]

/-! ### The form of what can be read -/

/-- Some lines **hold** the blocks of a label, with these contents. -/
inductive Holds (label : String) : List (List Char) → List Bytes → Prop where
  /-- No marker stands outside the blocks. -/
  | outside {lines : List (List Char)} (noMarker : ∀ line ∈ lines, Neither label line) :
      Holds label lines []
  /-- A block begins with the last beginning before an end, and its content is written in the
  lines between the two. -/
  | block {before body lines : List (List Char)} {first last : List Char} {content : Bytes}
      {contents : List Bytes} (noEnd : ∀ line ∈ before, ¬ Ends label line)
      (begins : Begins label first) (noMarker : ∀ line ∈ body, Neither label line)
      (ends : Ends label last) (written : Base64.decode (body.flatMap Text.trim) = some content)
      (others : Holds label lines contents) :
      Holds label (before ++ first :: body ++ last :: lines) (content :: contents)

/-- A list has a first item of a kind, or none. -/
theorem exists_first {α : Type} (P : α → Prop) (l : List α) :
    (∀ x ∈ l, ¬ P x) ∨ ∃ before x after, l = before ++ x :: after ∧ P x ∧ ∀ y ∈ before, ¬ P y := by
  induction l with
  | nil => exact .inl nofun
  | cons x l ih =>
      by_cases hx : P x
      · exact .inr ⟨[], x, l, rfl, hx, nofun⟩
      · rcases ih with hNone | ⟨before, y, after, rfl, hy, hBefore⟩
        · exact .inl (List.forall_mem_cons.mpr ⟨hx, hNone⟩)
        · exact .inr ⟨x :: before, y, after, rfl, hy, List.forall_mem_cons.mpr ⟨hx, hBefore⟩⟩

/-- A list has a last item of a kind, or none. -/
theorem exists_last {α : Type} (P : α → Prop) (l : List α) :
    (∀ x ∈ l, ¬ P x) ∨ ∃ before x after, l = before ++ x :: after ∧ P x ∧ ∀ y ∈ after, ¬ P y := by
  rcases exists_first P l.reverse with hNone | ⟨after, x, before, hReverse, hx, hAfter⟩
  · exact .inl (by simpa using hNone)
  · refine .inr ⟨before.reverse, x, after.reverse, ?_, hx, by simpa using hAfter⟩
    rw [← l.reverse_reverse, hReverse]
    simp

/-- What lines hold is read from them. -/
theorem Holds.blocksFrom_eq {contents : List Bytes} (h : Holds label lines contents) :
    blocksFrom label none lines = .ok contents := by
  induction h with
  | @outside lines noMarker =>
      have hRead : blocksFrom label none (lines ++ []) = .ok [] :=
        blocksFrom_append_neither noMarker none
      rwa [List.append_nil] at hRead
  | block noEnd begins noMarker ends written _ ih =>
      rw [blocksFrom_block noEnd begins noMarker ends, written, ih]
      rfl

/-- What is read from lines is what they **hold**: up to the first end there is one block, and
behind it there are fewer lines. -/
theorem holds_of_blocksFrom {lines : List (List Char)} {contents : List Bytes}
    (h : blocksFrom label none lines = .ok contents) : Holds label lines contents := by
  rcases exists_first (Ends label) lines with hNone | ⟨front, last, rest, rfl, hLast, hFront⟩
  · -- Without an end there is no beginning either: its block would be left open.
    rcases exists_last (Begins label) lines with hOutside | ⟨before, first, after, rfl, hFirst, -⟩
    · have hNeither := fun line hLine => neither_of_not (hOutside line hLine) (hNone line hLine)
      have hRead := (Holds.outside hNeither).blocksFrom_eq
      obtain rfl := Except.ok.inj (hRead.symm.trans h)
      exact .outside hNeither
    · rw [blocksFrom_append_begins (fun line hLine => hNone line (List.mem_append_left _ hLine))
        hFirst, blocksFrom_of_open fun line hLine => hNone line (by simp [hLine])] at h
      cases h
  · rcases exists_last (Begins label) front with hNone | ⟨before, first, body, rfl, hFirst, hBody⟩
    · have hNeither := fun line hLine => neither_of_not (hNone line hLine) (hFront line hLine)
      rw [blocksFrom_append_neither hNeither, Option.map_none, blocksFrom_ends_none hLast] at h
      cases h
    · have hNeither : ∀ line ∈ body, Neither label line := fun line hLine =>
        neither_of_not (hBody line hLine) (hFront line (by simp [hLine]))
      have hBefore : ∀ line ∈ before, ¬ Ends label line := fun line hLine =>
        hFront line (List.mem_append_left _ hLine)
      have hShorter : rest.length < (before ++ first :: body ++ last :: rest).length := by
        rw [List.length_append, List.length_cons]
        omega
      rw [blocksFrom_block hBefore hFirst hNeither hLast] at h
      split at h
      · cases h
      · rename_i content hContent
        obtain ⟨contents, hRest, rfl⟩ := map_eq_ok_iff.mp h
        exact .block hBefore hFirst hNeither hLast hContent (holds_of_blocksFrom hRest)
termination_by lines.length

/-- **The texts that are read**, and what is read in them. -/
theorem blocks_eq_ok_iff {text : String} {contents : List Bytes} :
    blocks label text = .ok contents ↔ Holds label (Text.lines text.toList) contents :=
  ⟨holds_of_blocksFrom, Holds.blocksFrom_eq⟩

end RemoteAttestation.Pem
