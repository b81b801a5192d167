import RemoteAttestation.Proofs.Pem.Blocks

/-!
# Blocks Without an End

A file may arrive cut short. A cut inside a block must not go unnoticed, since what is left of
the Base64 text may well be the Base64 text of a shorter string. It does not: wherever the text
is cut between the marker that begins a block and the marker that ends it, even in the middle
of that second marker, what is left is refused. The lines before the one with the beginning are
the same with the cut and without it; that line begins a block, and no line after it ends one.

A marker is looked for in each line. So all this is about labels without a line feed: a marker
that is broken into lines stands in no line, and a text with such markers has no block at all.

## Main results

* `Pem.Holds.exists_block`: each end belongs to a block of its own, with the lines since the last
  beginning.
* `Pem.blocks_of_cut`: a text that is read, and what is left of it when it is cut inside a block.
* `Pem.blocks_of_cut_broken_label`: a label whose markers stand in no line.
-/

namespace RemoteAttestation.Pem

section

variable {label : String} {lines : List (List Char)} {contents : List Bytes}

/-! ### Ends and blocks -/

/-- The number of lines that end a block. -/
def endCount (label : String) (lines : List (List Char)) : Nat :=
  lines.countP (lineKind label · = .ends)

/-- Ends are counted part by part. -/
theorem endCount_append (front rest : List (List Char)) :
    endCount label (front ++ rest) = endCount label front + endCount label rest :=
  List.countP_append

/-- A line that ends a block counts. -/
theorem endCount_cons_of_ends {last : List Char} (h : Ends label last) :
    endCount label (last :: lines) = endCount label lines + 1 := by
  have hKind := lineKind_eq_ends_iff.mpr h
  simp [endCount, hKind]

/-- Lines that end nothing do not count. -/
theorem endCount_eq_zero (h : ∀ line ∈ lines, ¬ Ends label line) : endCount label lines = 0 := by
  rw [endCount, List.countP_eq_zero]
  intro line hLine
  rw [decide_eq_true_eq, lineKind_eq_ends_iff]
  exact h line hLine

/-- No line of a block but the last one ends it. -/
theorem not_ends_of_mem_block {before body : List (List Char)} {first : List Char}
    (hBefore : ∀ line ∈ before, ¬ Ends label line) (hFirst : Begins label first)
    (hBody : ∀ line ∈ body, Neither label line) :
    ∀ line ∈ before ++ first :: body, ¬ Ends label line := by
  rw [List.forall_mem_append, List.forall_mem_cons]
  exact ⟨hBefore, hFirst.not_ends, fun line hLine => (hBody line hLine).not_ends⟩

/-- There are **as many blocks as ends**. -/
theorem Holds.length_eq (h : Holds label lines contents) :
    contents.length = endCount label lines := by
  induction h with
  | outside noMarker =>
      exact (endCount_eq_zero fun line hLine => (noMarker line hLine).not_ends).symm
  | block noEnd begins noMarker ends _ _ ih =>
      have hFront := endCount_eq_zero (not_ends_of_mem_block noEnd begins noMarker)
      rw [endCount_append, hFront, endCount_cons_of_ends ends, List.length_cons, ih, Nat.zero_add]

/-- **Each end belongs to a block of its own**: the one that began last, whose content is
written in the lines since then. -/
theorem Holds.exists_block (h : Holds label lines contents) {front rest : List (List Char)}
    {last : List Char} (hLines : lines = front ++ last :: rest) (hLast : Ends label last) :
    ∃ before first body content, front = before ++ first :: body ∧ Begins label first ∧
      (∀ line ∈ body, Neither label line) ∧
      Base64.decode (body.flatMap Text.trim) = some content ∧
      contents[endCount label front]? = some content := by
  induction h generalizing front with
  | outside noMarker =>
      exact absurd hLast (noMarker last (by simp [hLines])).not_ends
  | @block before body others first end' content contents noEnd begins noMarker ends written _ ih =>
      have hFront := not_ends_of_mem_block noEnd begins noMarker
      rcases List.append_eq_append_iff.mp hLines with ⟨more, rfl, hRest⟩ | ⟨beyond, hFirst, hRest⟩
      · cases more with
        | nil =>
            -- The end of the first block.
            refine ⟨before, first, body, content, List.append_nil _, begins, noMarker, written, ?_⟩
            rw [List.append_nil, endCount_eq_zero hFront, List.getElem?_cons_zero]
        | cons other more =>
            -- The end of a later one.
            obtain ⟨rfl, hMore⟩ := List.cons.inj hRest
            obtain ⟨before', first', body', content', rfl, hBegins, hBody, hWritten, hContent⟩ :=
              ih hMore
            refine ⟨before ++ first :: body ++ end' :: before', first', body', content', by simp,
              hBegins, hBody, hWritten, ?_⟩
            rw [endCount_append, endCount_eq_zero hFront, endCount_cons_of_ends ends, Nat.zero_add,
              List.getElem?_cons_succ, hContent]
      · cases beyond with
        | nil =>
            rw [List.append_nil] at hFirst
            refine ⟨before, first, body, content, hFirst.symm, begins, noMarker, written, ?_⟩
            rw [← hFirst, endCount_eq_zero hFront, List.getElem?_cons_zero]
        | cons other beyond =>
            obtain ⟨rfl, -⟩ := List.cons.inj hRest
            exact absurd hLast (hFront last (by simp [hFirst]))

/-! ### Cuts -/

/-- A fault behind lines that could be read, whatever they leave open, is **the fault of
all**. -/
theorem blocksFrom_append_eq_error {front rest rest' : List (List Char)} {fault : PemFault}
    (hRest : ∀ open?, blocksFrom label open? rest' = .error fault) {open? : Option (List Char)}
    (h : blocksFrom label open? (front ++ rest) = .ok contents) :
    blocksFrom label open? (front ++ rest') = .error fault := by
  induction front generalizing open? contents with
  | nil => exact hRest open?
  | cons line front ih =>
      rw [List.cons_append] at h ⊢
      by_cases hBegins : Begins label line
      · rw [blocksFrom_begins hBegins] at h ⊢
        exact ih h
      by_cases hEnds : Ends label line
      · cases open? with
        | none =>
            rw [blocksFrom_ends_none hEnds] at h
            cases h
        | some text =>
            rw [blocksFrom_ends_some hEnds] at h ⊢
            split at h
            · cases h
            · obtain ⟨contents, hOthers, -⟩ := map_eq_ok_iff.mp h
              rw [ih hOthers]
              rfl
      · rw [blocksFrom_neither (neither_of_not hBegins hEnds)] at h ⊢
        exact ih h

/-- What is left when a text is cut between a beginning and the next end leaves **a block
open**. -/
theorem blocksFrom_of_begins (hLabel : '\n' ∉ label.toList) {start inside : List Char}
    (hStart : '\n' ∉ start) (hInside : ¬ (endMarker label).toList <:+: inside)
    (open? : Option (List Char)) :
    blocksFrom label open? (Text.lines (start ++ (beginMarker label).toList ++ inside)) =
      .error (.unterminated label) := by
  have hFeed : '\n' ∉ start ++ (beginMarker label).toList := by
    rw [List.mem_append]
    exact fun h => h.elim hStart (feed_not_mem_beginMarker hLabel)
  obtain ⟨first, rest, hLines, hFirst, hRest⟩ :
      ∃ first rest, Text.lines (start ++ (beginMarker label).toList ++ inside) = first :: rest ∧
        Begins label first ∧ ∀ line ∈ rest, line <:+: inside :=
    Text.exists_lines_append (beginMarker_ne_nil label) hFeed (getLast?_beginMarker_ne label)
  rw [hLines, blocksFrom_begins hFirst]
  -- Nothing behind the beginning ends a block, since the marker for that does not stand there.
  exact blocksFrom_of_open (fun line hLine hEnds => hInside (hEnds.1.trans (hRest line hLine))) []

/-- **A text that is read.** When it is cut behind a complete beginning and before the next end
is complete, what is left is refused, for an open block. And the text has as many blocks as
ends, each written in the lines between its end and the last beginning before it. -/
theorem blocks_of_cut {text : String} (h : blocks label text = .ok contents) :
    ('\n' ∉ label.toList → ∀ before inside after : List Char,
      text.toList = before ++ (beginMarker label).toList ++ inside ++ after →
      ¬ (endMarker label).toList <:+: inside →
      blocks label (String.ofList (before ++ (beginMarker label).toList ++ inside)) =
        .error (.unterminated label)) ∧
    ∀ lines, Text.HasLines text.toList lines →
      contents.length = endCount label lines ∧
      ∀ front last rest, lines = front ++ last :: rest → Ends label last →
        ∃ before first body content, front = before ++ first :: body ∧ Begins label first ∧
          (∀ line ∈ body, Neither label line) ∧
          Base64.decode (body.flatMap Text.trim) = some content ∧
          contents[endCount label front]? = some content := by
  constructor
  · intro hLabel before inside after hText hInside
    rw [blocks, hText] at h
    rw [blocks, String.toList_ofList]
    -- The line with the beginning starts behind the last line feed, if there is one.
    rcases exists_last (· = '\n') before with hNone | ⟨front, c, start, rfl, rfl, hStart⟩
    · exact blocksFrom_of_begins hLabel (fun hMem => hNone _ hMem rfl) hInside none
    · have hStart' : '\n' ∉ start := fun hMem => hStart _ hMem rfl
      simp only [List.append_assoc, List.cons_append] at h ⊢
      rw [Text.lines_append] at h ⊢
      refine blocksFrom_append_eq_error (fun open? => ?_) h
      have hOpen := blocksFrom_of_begins hLabel hStart' hInside open?
      rwa [List.append_assoc] at hOpen
  · intro lines hLines
    have hHolds := blocks_eq_ok_iff.mp h
    rw [hLines.lines_eq] at hHolds
    exact ⟨hHolds.length_eq, fun front last rest hSplit hLast => hHolds.exists_block hSplit hLast⟩

end

/-! ### A cut inside the marker of an end -/

namespace CutShort

/-- A block with three octets. -/
def text : String :=
  "-----BEGIN KEY-----\nQUJD\n-----END KEY-----\n"

/-- What stands between its beginning and the cut: the last hyphen of the end is missing. -/
def inside : List Char :=
  "\nQUJD\n-----END KEY----".toList

/-- What is cut off. -/
def after : List Char :=
  "-\n".toList

/-- The text is read as one block. -/
theorem blocks_text : blocks "KEY" text = .ok [[65, 66, 67]] := by
  decide +kernel

/-- The text has a beginning, and no end between that and the cut. -/
theorem toList_text : text.toList = [] ++ (beginMarker "KEY").toList ++ inside ++ after := by
  decide +kernel

end CutShort

open CutShort in
/-- The text is read, and refused when the last hyphen is cut off. Its one end belongs to its
one block. -/
theorem blocks_of_cut_short :
    blocks "KEY" text = .ok [[65, 66, 67]] ∧
    blocks "KEY" (String.ofList ((beginMarker "KEY").toList ++ inside)) =
      .error (.unterminated "KEY") ∧
    ∃ before first body content,
      ["-----BEGIN KEY-----".toList, "QUJD".toList] = before ++ first :: body ∧
        Base64.decode (body.flatMap Text.trim) = some content ∧
          [[65, 66, 67]][endCount "KEY" ["-----BEGIN KEY-----".toList, "QUJD".toList]]? =
            some content := by
  obtain ⟨hCut, hEnds⟩ := blocks_of_cut blocks_text
  have hInside : ¬ (endMarker "KEY").toList <:+: inside := by
    rw [← Text.occursIn_iff]
    decide +kernel
  have hLines : Text.HasLines text.toList
      ["-----BEGIN KEY-----".toList, "QUJD".toList, "-----END KEY-----".toList] :=
    Text.lines_eq_iff.mp (by decide +kernel)
  have hLast : Ends "KEY" "-----END KEY-----".toList :=
    lineKind_eq_ends_iff.mp (by decide +kernel)
  obtain ⟨before, first, body, content, hFront, -, -, hContent, hAt⟩ :=
    (hEnds _ hLines).2 ["-----BEGIN KEY-----".toList, "QUJD".toList] _ [] rfl hLast
  exact ⟨blocks_text, hCut (by decide +kernel) [] inside after toList_text hInside, before, first,
    body, content, hFront, hContent, hAt⟩

/-! ### A label with a line feed -/

namespace BrokenLabel

/-- A label whose markers are broken into two lines each. -/
def label : String :=
  "A\nB"

/-- A text with such markers. -/
def text : String :=
  "-----BEGIN A\nB-----\nQUJD\n-----END A\nB-----\n"

end BrokenLabel

open BrokenLabel in
/-- A marker that is **broken into lines** is not seen: a text with such markers has no blocks,
and has none either when it is cut between them. -/
theorem blocks_of_cut_broken_label :
    ¬ ∀ (label text : String) (contents : List Bytes) (before inside after : List Char),
      blocks label text = .ok contents →
      text.toList = before ++ (beginMarker label).toList ++ inside ++ after →
      ¬ (endMarker label).toList <:+: inside →
        ∃ fault,
          blocks label (String.ofList (before ++ (beginMarker label).toList ++ inside)) =
            .error fault := by
  intro h
  have hInside : ¬ (endMarker label).toList <:+: "\nQUJD\n".toList := by
    rw [← Text.occursIn_iff]
    decide +kernel
  have hText : text.toList = [] ++ (beginMarker label).toList ++ "\nQUJD\n".toList ++
      "-----END A\nB-----\n".toList := by
    decide +kernel
  have hRead : blocks label text = .ok [] := by decide +kernel
  obtain ⟨fault, hFault⟩ := h label text [] [] _ _ hRead hText hInside
  have hCut : blocks label (String.ofList ([] ++ (beginMarker label).toList ++
      "\nQUJD\n".toList)) = .ok [] := by
    decide +kernel
  cases hCut.symm.trans hFault

end RemoteAttestation.Pem
