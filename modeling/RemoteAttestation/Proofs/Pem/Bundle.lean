import RemoteAttestation.Proofs.Pem.Armor

/-!
# Bundles

A file may hold blocks with several labels, one after the other. Every label is looked for by
itself, in the whole file, so a reader of one label must take all other blocks for lines that
do not concern it. This is so when the lines around a block hold the markers of its label and
no others (`Pem.Opens`, `Pem.Closes`): then the file is an armored list of strings for each
label, with the contents of the blocks that have it.

A line with nothing but a marker is such a line, if the label can be told from the hyphens
around it (`Pem.PlainLabel`). Five hyphens in a row, or one at the end, could be those of a
shorter label.

## Main results

* `Pem.fenced_infix_fenced_iff`: a marker stands in another only if it is the same.
* `Pem.opens_of_pads`, `Pem.closes_of_pads`: the lines around a block with a plain label.
* `Pem.Bundle.armored`: what a bundle is for each label.
* `Pem.bundle_write`: blocks with plain labels, written as a bundle.
-/

namespace RemoteAttestation.Pem

section

variable {label : String} {line : List Char} {lines : List (List Char)}

/-! ### One marker in another -/

/-- A text that can be **told from the hyphens** around it. -/
structure Plain (inner : List Char) : Prop where
  /-- It is not empty, and begins with something else. -/
  head : ∃ c rest, inner = c :: rest ∧ c ≠ '-'
  /-- It ends with something else. -/
  last : inner.getLast? ≠ some '-'
  /-- There are no five of them in it. -/
  noRun : ¬ hyphens <:+: inner

/-- Five hyphens do not stand among four. -/
theorem not_hyphens_infix_replicate : ¬ hyphens <:+: List.replicate 4 '-' :=
  fun h => absurd h.length_le (by decide)

/-- The hyphens of a marker stand **at its ends** only. -/
theorem not_hyphens_infix_of_plain {inner : List Char} (h : Plain inner) :
    ¬ hyphens <:+: List.replicate 4 '-' ++ inner ++ List.replicate 4 '-' := by
  obtain ⟨c, rest, rfl, hHead⟩ := h.head
  have hNotMem : ∀ {d : Char}, d ≠ '-' → d ∉ hyphens := fun hd hMem =>
    hd (List.eq_of_mem_replicate hMem)
  rw [List.append_assoc, List.cons_append, Text.infix_append_cons_iff (hNotMem hHead)]
  rintro (hFront | hBack)
  · exact not_hyphens_infix_replicate hFront
  -- The last character parts the text from the hyphens behind it, as the first one did in front.
  rcases List.eq_nil_or_concat rest with rfl | ⟨middle, d, rfl⟩
  · exact not_hyphens_infix_replicate hBack
  · rw [List.concat_eq_append] at h hBack
    have hLast : d ≠ '-' := by
      rintro rfl
      exact h.last (by rw [← List.cons_append, List.getLast?_concat])
    rw [List.append_assoc, List.singleton_append,
      Text.infix_append_cons_iff (hNotMem hLast)] at hBack
    rcases hBack with hMiddle | hEnd
    · refine h.noRun (hMiddle.trans ?_)
      exact (List.prefix_append middle [d]).isInfix.trans (List.suffix_cons c _).isInfix
    · exact not_hyphens_infix_replicate hEnd

/-- Five hyphens stand in a marker where it begins, or where it ends. -/
theorem eq_nil_or_eq_nil_of_hyphens {inner left right : List Char} (h : Plain inner)
    (hText : left ++ hyphens ++ right = fenced inner) : left = [] ∨ right = [] := by
  have hFenced : fenced inner =
      '-' :: (List.replicate 4 '-' ++ inner ++ List.replicate 4 '-') ++ ['-'] := by
    simp [fenced, hyphens, List.replicate]
  cases left with
  | nil => exact .inl rfl
  | cons c left =>
      rcases List.eq_nil_or_concat right with rfl | ⟨right, d, rfl⟩
      · exact .inr rfl
      · rw [hFenced, List.concat_eq_append, ← List.append_assoc] at hText
        obtain ⟨hInner, -⟩ := List.append_inj' hText rfl
        obtain ⟨-, hInner⟩ := List.cons.inj hInner
        exact absurd ⟨left, right, hInner⟩ (not_hyphens_infix_of_plain h)

/-- **A marker stands in another** only if it is the same. -/
theorem fenced_infix_fenced_iff {inner outer : List Char} (h : Plain outer) :
    fenced inner <:+: fenced outer ↔ inner = outer := by
  constructor
  · rintro ⟨left, right, hText⟩
    have hFirst : left ++ hyphens ++ (inner ++ hyphens ++ right) = fenced outer := by
      simpa [fenced] using hText
    rcases eq_nil_or_eq_nil_of_hyphens h hFirst with rfl | hNil
    · have hSecond : hyphens ++ inner ++ hyphens ++ right = fenced outer := by
        simpa [fenced] using hText
      rcases eq_nil_or_eq_nil_of_hyphens h hSecond with hNil | rfl
      · simp [hyphens] at hNil
      · rw [List.append_nil, fenced, List.append_left_inj, List.append_right_inj] at hSecond
        exact hSecond
    · simp [hyphens] at hNil
  · rintro rfl
    exact List.infix_refl _

/-! ### Labels -/

/-- A label that can be told from the hyphens **behind it**. -/
structure PlainLabel (label : String) : Prop where
  /-- There are no five hyphens in it. -/
  noRun : ¬ hyphens <:+: label.toList
  /-- It does not end with one. -/
  last : label.toList.getLast? ≠ some '-'

/-- The text of a marker: the label behind a word without hyphens. -/
theorem PlainLabel.plain_append (h : PlainLabel label) {word : List Char} (hNil : word ≠ [])
    (hWord : '-' ∉ word) : Plain (word ++ label.toList) where
  head := by
    obtain ⟨c, rest, rfl⟩ := List.exists_cons_of_ne_nil hNil
    exact ⟨c, rest ++ label.toList, rfl, fun hEq => hWord (hEq ▸ List.mem_cons_self)⟩
  last := by
    rw [List.getLast?_append]
    intro hLast
    rcases Option.or_eq_some_iff.mp hLast with hLabel | ⟨-, hEnd⟩
    · exact h.last hLabel
    · exact hWord (List.mem_of_getLast? hEnd)
  noRun := by
    rw [Text.infix_append_iff_of_head?]
    · exact h.noRun
    · rintro c hc ⟨⟩
      exact hWord hc

/-- In a beginning with a plain label stands **no marker but that one**. -/
theorem PlainLabel.begin_infix_iff (h : PlainLabel label) (inner : List Char) :
    fenced inner <:+: (beginMarker label).toList ↔ inner = "BEGIN ".toList ++ label.toList := by
  rw [toList_beginMarker]
  exact fenced_infix_fenced_iff (h.plain_append (by decide) (by decide))

theorem PlainLabel.end_infix_iff (h : PlainLabel label) (inner : List Char) :
    fenced inner <:+: (endMarker label).toList ↔ inner = "END ".toList ++ label.toList := by
  rw [toList_endMarker]
  exact fenced_infix_fenced_iff (h.plain_append (by decide) (by decide))

/-! ### Lines around a block -/

/-- A line **opens** a block of a label: the marker for that stands in it, and no other one. -/
structure Opens (label : String) (line : List Char) : Prop where
  /-- No block of another label begins. -/
  begins_iff : ∀ other, (beginMarker other).toList <:+: line ↔ other = label
  /-- No block ends. -/
  noEnd : ∀ other, ¬ (endMarker other).toList <:+: line

/-- A line **closes** a block of a label: the marker for that stands in it, and no other
one. -/
structure Closes (label : String) (line : List Char) : Prop where
  /-- No block of another label ends. -/
  ends_iff : ∀ other, (endMarker other).toList <:+: line ↔ other = label
  /-- No block begins. -/
  noBegin : ∀ other, ¬ (beginMarker other).toList <:+: line

/-- Texts behind the same word are the same. -/
theorem append_toList_inj {word : List Char} {other : String} :
    word ++ other.toList = word ++ label.toList ↔ other = label := by
  rw [List.append_right_inj, String.toList_inj]

/-- The two kinds of markers differ in their first letter. -/
theorem begin_ne_end (label other : String) :
    "BEGIN ".toList ++ label.toList ≠ "END ".toList ++ other.toList := by
  intro h
  have hFirst : some 'B' = some 'E' := congrArg List.head? h
  exact absurd hFirst (by decide)

/-- A line with nothing but the marker **opens** a block with a plain label. -/
theorem opens_of_pads (hLabel : PlainLabel label)
    (h : Text.Pads line (beginMarker label).toList) : Opens label line where
  begins_iff other := by
    rw [toList_beginMarker other, fenced_infix_iff h, hLabel.begin_infix_iff, append_toList_inj]
  noEnd other := by
    rw [toList_endMarker other, fenced_infix_iff h, hLabel.begin_infix_iff]
    exact (begin_ne_end label other).symm

/-- A line with nothing but the marker **closes** a block with a plain label. -/
theorem closes_of_pads (hLabel : PlainLabel label)
    (h : Text.Pads line (endMarker label).toList) : Closes label line where
  ends_iff other := by
    rw [toList_endMarker other, fenced_infix_iff h, hLabel.end_infix_iff, append_toList_inj]
  noBegin other := by
    rw [toList_beginMarker other, fenced_infix_iff h, hLabel.end_infix_iff]
    exact begin_ne_end other label

/-- A line that opens a block begins it. -/
theorem Opens.begins (h : Opens label line) : Begins label line :=
  (h.begins_iff label).mpr rfl

theorem Closes.ends (h : Closes label line) : Ends label line :=
  ⟨(h.ends_iff label).mpr rfl, h.noBegin label⟩

/-- A line that opens a block is like any other line to **another label**. -/
theorem Opens.neither {other : String} (h : Opens label line) (hOther : other ≠ label) :
    Neither other line :=
  ⟨fun hBegins => hOther ((h.begins_iff other).mp hBegins), h.noEnd other⟩

/-- So is a line that closes one. -/
theorem Closes.neither {other : String} (h : Closes label line) (hOther : other ≠ label) :
    Neither other line :=
  ⟨h.noBegin other, fun hEnds => hOther ((h.ends_iff other).mp hEnds)⟩

/-! ### Bundles -/

/-- Some lines are a **bundle** of blocks, each with a label and a content. -/
inductive Bundle : List (List Char) → List (String × Bytes) → Prop where
  /-- There may be no block. -/
  | nil : Bundle [] []
  /-- No marker of any label stands in a line outside the blocks. -/
  | outside {line : List Char} {lines : List (List Char)} {blocks : List (String × Bytes)}
      (noMarker : ∀ label, Neither label line) (others : Bundle lines blocks) :
      Bundle (line :: lines) blocks
  /-- A block is a line that opens it, the lines that spell its content, and a line that closes
  it. -/
  | block {label : String} {content : Bytes} {first last : List Char}
      {body lines : List (List Char)} {blocks : List (String × Bytes)}
      (opens : Opens label first) (spells : Spells body content)
      (closes : Closes label last) (others : Bundle lines blocks) :
      Bundle (first :: body ++ last :: lines) ((label, content) :: blocks)

/-- The contents of the blocks with a label. -/
def contentsOf (label : String) (blocks : List (String × Bytes)) : List Bytes :=
  (blocks.filter fun block => block.1 = label).map Prod.snd

/-- A block with the label gives its content. -/
theorem contentsOf_cons_self (content : Bytes) (blocks : List (String × Bytes)) :
    contentsOf label ((label, content) :: blocks) = content :: contentsOf label blocks := by
  simp [contentsOf]

/-- A block with another label gives nothing. -/
theorem contentsOf_cons_of_ne {block : String × Bytes} (h : block.1 ≠ label)
    (blocks : List (String × Bytes)) :
    contentsOf label (block :: blocks) = contentsOf label blocks := by
  simp [contentsOf, h]

/-- The contents of some blocks are in front of those of later ones. -/
theorem contentsOf_append (front blocks : List (String × Bytes)) :
    contentsOf label (front ++ blocks) = contentsOf label front ++ contentsOf label blocks := by
  simp [contentsOf]

/-- A label has no content when no block has that label. -/
theorem contentsOf_eq_nil_iff {blocks : List (String × Bytes)} :
    contentsOf label blocks = [] ↔ ∀ block ∈ blocks, block.1 ≠ label := by
  simp [contentsOf]

/-- **What a bundle is for each label**: armored strings, the contents of the blocks that have
it. -/
theorem Bundle.armored {blocks : List (String × Bytes)} (h : Bundle lines blocks) (label : String) :
    Armored label lines (contentsOf label blocks) := by
  induction h with
  | nil => exact .nil
  | outside noMarker _ ih => exact .outside (noMarker label) ih
  | @block other content first last body lines blocks opens spells closes _ ih =>
      by_cases hLabel : label = other
      · subst hLabel
        rw [contentsOf_cons_self]
        exact .block opens.begins spells closes.ends ih
      · rw [contentsOf_cons_of_ne (Ne.symm hLabel), List.append_cons]
        refine ih.append ?_
        simp only [List.forall_mem_append, List.forall_mem_cons]
        exact ⟨⟨opens.neither hLabel, spells.neither⟩, closes.neither hLabel, nofun⟩

/-- A block of a label **begins** somewhere in a list of armored strings that is not empty. -/
theorem Armored.exists_begins_iff {contents : List Bytes} (h : Armored label lines contents) :
    (∃ line ∈ lines, Begins label line) ↔ contents ≠ [] := by
  induction h with
  | nil => simp
  | @outside line _ _ noMarker _ ih =>
      have hLine : ¬ Begins label line := noMarker.1
      rw [List.exists_mem_cons_iff, ih, or_iff_right hLine]
  | block begins _ _ _ _ =>
      refine iff_of_true ⟨_, ?_, begins⟩ (List.cons_ne_nil _ _)
      rw [List.cons_append]
      exact List.mem_cons_self

/-! ### Written bundles -/

/-- The lines of a block, with its Base64 text in one of them. -/
def writeBlock (block : String × Bytes) : List (List Char) :=
  [(beginMarker block.1).toList, Base64.encode block.2, (endMarker block.1).toList]

/-- The text of a bundle. -/
def write (blocks : List (String × Bytes)) : String :=
  String.ofList ((blocks.flatMap writeBlock).flatMap (· ++ ['\n']))

/-- Blocks with plain labels are **written as a bundle**. -/
theorem bundle_write {blocks : List (String × Bytes)} (h : ∀ block ∈ blocks, PlainLabel block.1) :
    Bundle (blocks.flatMap writeBlock) blocks := by
  induction blocks with
  | nil => exact .nil
  | cons block blocks ih =>
      obtain ⟨hLabel, hRest⟩ := List.forall_mem_cons.mp h
      have hPads : ∀ line : List Char, Text.Pads line line := fun line =>
        ⟨[], [], nofun, nofun, by simp⟩
      have hSpells : Spells [Base64.encode block.2] block.2 :=
        ⟨[Base64.encode block.2], .cons (hPads _) .nil, by simp⟩
      exact .block (opens_of_pads hLabel (hPads _)) hSpells (closes_of_pads hLabel (hPads _))
        (ih hRest)

/-- What is written for blocks has their lines, if no label has a line feed. -/
theorem hasLines_write {blocks : List (String × Bytes)}
    (h : ∀ block ∈ blocks, '\n' ∉ block.1.toList) :
    Text.HasLines (write blocks).toList (blocks.flatMap writeBlock) := by
  rw [write, String.toList_ofList]
  refine Text.hasLines_flatMap fun line hLine => ?_
  obtain ⟨block, hBlock, hLine⟩ := List.mem_flatMap.mp hLine
  have hLabel := h block hBlock
  simp only [writeBlock, List.mem_cons, List.not_mem_nil, or_false] at hLine
  rcases hLine with rfl | rfl | rfl
  · exact ⟨feed_not_mem_beginMarker hLabel, getLast?_beginMarker_ne _⟩
  · constructor
    · exact fun hMem => absurd (Base64.isBlank_of_mem_encode hMem) (by decide)
    · exact fun hLast =>
        absurd (Base64.isBlank_of_mem_encode (List.mem_of_getLast? hLast)) (by decide)
  · exact ⟨feed_not_mem_endMarker hLabel, getLast?_endMarker_ne _⟩

end

end RemoteAttestation.Pem
