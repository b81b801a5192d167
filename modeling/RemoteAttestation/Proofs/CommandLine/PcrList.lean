import RemoteAttestation.CommandLine.Operand
import RemoteAttestation.Proofs.Algorithm
import RemoteAttestation.Proofs.Pcr.Selection
import RemoteAttestation.Proofs.Results
import RemoteAttestation.Proofs.Text.Lines
import RemoteAttestation.Proofs.Text.Numeral
import RemoteAttestation.Proofs.Text.Split

/-!
# Lists of PCRs as Operators Write Them

An operator asks for PCRs of a bank with a word, a colon and numbers with commas between them.
The word names an algorithm, in letters of either case and with hyphens anywhere; a number is
written in decimal, with zeros and a plus sign in front of it or not, and with white space
around it or not (`PcrBank.Lists`). A text lists one sequence of numbers or none.

What is asked for is the set of these numbers, in a bank that has them all, and no number may
be there twice. So the spelling does not matter, and neither does the order; but a list is
judged in its order, and the number that is refused is the first one that there is something
against. A number is read as an index of eight bits before it is judged, so one that is too
large for that is refused by the reader.

## Main results

* `PcrBank.parse_eq_ok_iff`: the text lists what is read.
* `PcrBank.Lists.unique`: a text lists one sequence of numbers.
* `PcrBank.asks_iff`: the selection that a text asks for.
* `PcrBank.asks_of_lists`: which texts ask for a selection, for which one, and what is refused.
-/

namespace RemoteAttestation

/-! ### Items -/

namespace Numeral

/-- A number is written with a plus sign and digits only. -/
theorem eq_plus_or_isDigit_of_writes {cs : List Char} {n : Nat} (h : Writes cs n) {c : Char}
    (hc : c ∈ cs) : c = '+' ∨ c.isDigit = true := by
  obtain ⟨digits, rfl | rfl, -, hDigits, -⟩ := h
  · exact .inr (hDigits c hc)
  · exact (List.mem_cons.mp hc).imp_right (hDigits c)

end Numeral

namespace PcrBank

/-- An item of a list **writes** a number, with white space around it or not. -/
def ItemWrites (item : List Char) (n : Nat) : Prop :=
  ∃ piece, Text.Pads item piece ∧ Numeral.Writes piece n

/-- There is no white space in a number, so trimming takes what is around it. -/
theorem isBlank_of_writes {piece : List Char} {n : Nat} (h : Numeral.Writes piece n) :
    ∀ c ∈ piece, Text.isBlank c = false := by
  intro c hc
  rcases Numeral.eq_plus_or_isDigit_of_writes h hc with rfl | hDigit
  · decide
  · rw [Char.isDigit, Bool.and_eq_true, decide_eq_true_eq, decide_eq_true_eq] at hDigit
    have hLow : 48 ≤ c.toNat := hDigit.1
    have hHigh : c.toNat ≤ 57 := hDigit.2
    simp [Text.isBlank]
    omega

/-- An item writes what is left of it when it is trimmed. -/
theorem itemWrites_iff {item : List Char} {n : Nat} :
    ItemWrites item n ↔ Numeral.Writes (Text.trim item) n := by
  constructor
  · rintro ⟨piece, hPads, hWrites⟩
    rwa [Text.trim_eq_of_pads hPads (isBlank_of_writes hWrites)]
  · intro hWrites
    exact ⟨_, Text.pads_trim item, hWrites⟩

/-- An item writes one number. -/
theorem ItemWrites.unique {item : List Char} {n n' : Nat} (h : ItemWrites item n)
    (h' : ItemWrites item n') : n = n' :=
  (itemWrites_iff.mp h).unique (itemWrites_iff.mp h')

/-- **No comma** stands in an item. -/
theorem ItemWrites.not_comma_mem {item : List Char} {n : Nat} (h : ItemWrites item n) :
    ',' ∉ item := by
  obtain ⟨piece, ⟨before, after, hBefore, hAfter, rfl⟩, hWrites⟩ := h
  intro hMem
  rw [List.mem_append, List.mem_append] at hMem
  rcases hMem with (hMem | hMem) | hMem
  · exact absurd (hBefore _ hMem) (by decide)
  · exact absurd (Numeral.eq_plus_or_isDigit_of_writes hWrites hMem) (by decide)
  · exact absurd (hAfter _ hMem) (by decide)

/-- The index that an item is read as is the number that it writes. -/
theorem parseIndex_eq_ok_iff {item : List Char} {index : UInt8} :
    parseIndex item = .ok index ↔ ItemWrites item index.toNat := by
  rw [itemWrites_iff, parseIndex]
  constructor
  · intro h
    split at h
    · rename_i n hRead
      obtain ⟨hWrites, hLt⟩ := (Numeral.read_eq_ok_iff (by decide)).mp hRead
      obtain rfl := Except.ok.inj h
      rwa [UInt8.toNat_ofNat_of_lt' hLt]
    · cases h
  · intro h
    rw [(Numeral.read_eq_ok_iff (by decide)).mpr ⟨h, index.toNat_lt⟩]
    exact congrArg Except.ok UInt8.ofNat_toNat

/-! ### Lists -/

/-- A text **lists** some numbers of a bank: before its first colon it names the bank, and
behind it there are items that write the numbers, with commas between them. -/
def Lists (text : String) (bank : Algorithm) (numbers : List Nat) : Prop :=
  ∃ name items, text.toList = name ++ ':' :: [','].intercalate items ∧ ':' ∉ name ∧
    items ≠ [] ∧ Algorithm.Names name bank ∧ List.Forall₂ ItemWrites items numbers

/-- What a text lists, with the pieces that the reader finds. -/
theorem lists_iff {text : String} {bank : Algorithm} {numbers : List Nat} :
    Lists text bank numbers ↔
      ∃ name list, Text.splitFirst? ':' text.toList = some (name, list) ∧
        Algorithm.ofName (String.ofList name) = .ok bank ∧
        List.Forall₂ ItemWrites (Text.splitAll ',' list) numbers := by
  simp only [Text.splitFirst?_eq_some_iff, Algorithm.ofName_eq_ok_iff, String.toList_ofList]
  constructor
  · rintro ⟨name, items, hText, hColon, hNe, hName, hItems⟩
    have hComma : ∀ item ∈ items, ',' ∉ item := fun item hItem => by
      obtain ⟨n, -, hWrites⟩ := exists_of_mem_of_forall₂ hItems hItem
      exact hWrites.not_comma_mem
    refine ⟨name, _, ⟨hText, hColon⟩, hName, ?_⟩
    rwa [Text.splitAll_eq_iff.mpr ⟨rfl, hNe, hComma⟩]
  · rintro ⟨name, list, ⟨hText, hColon⟩, hName, hItems⟩
    obtain ⟨hList, hNe, -⟩ := Text.splitAll_eq_iff.mp (rfl : Text.splitAll ',' list = _)
    exact ⟨name, _, hList ▸ hText, hColon, hNe, hName, hItems⟩

/-- A text lists **one** sequence of numbers, of one bank. -/
theorem Lists.unique {text : String} {bank bank' : Algorithm} {numbers numbers' : List Nat}
    (h : Lists text bank numbers) (h' : Lists text bank' numbers') :
    bank = bank' ∧ numbers = numbers' := by
  obtain ⟨name, list, hSplit, hName, hItems⟩ := lists_iff.mp h
  obtain ⟨name', list', hSplit', hName', hItems'⟩ := lists_iff.mp h'
  obtain ⟨rfl, rfl⟩ := Prod.mk.inj (Option.some.inj (hSplit.symm.trans hSplit'))
  have hUnique : Relator.RightUnique ItemWrites := fun _ _ _ => ItemWrites.unique
  exact ⟨Except.ok.inj (hName.symm.trans hName'), hUnique.forall₂ hItems hItems'⟩

/-- A text that lists anything has an item, since even an empty list is one that writes
nothing. -/
theorem Lists.ne_nil {text : String} {bank : Algorithm} {numbers : List Nat}
    (h : Lists text bank numbers) : numbers ≠ [] := by
  obtain ⟨name, items, -, -, hNe, -, hItems⟩ := h
  rintro rfl
  cases hItems
  exact hNe rfl

/-- **What is read** is what the text lists, in the same order. -/
theorem parse_eq_ok_iff {text : String} {b : PcrBank} :
    parse text = .ok b ↔ Lists text b.bank (b.indices.map UInt8.toNat) := by
  rw [lists_iff, parse]
  simp only [List.forall₂_map_right_iff, ← parseIndex_eq_ok_iff, ← mapM_eq_ok_iff]
  cases Text.splitFirst? ':' text.toList with
  | none => simp
  | some parts =>
      obtain ⟨name, list⟩ := parts
      constructor
      · intro h
        obtain ⟨indices, hIndices, h⟩ := bind_eq_ok_iff.mp h
        obtain ⟨bank, hBank, h⟩ := bind_eq_ok_iff.mp h
        obtain rfl := Except.ok.inj h
        exact ⟨name, list, rfl, mapError_eq_ok_iff.mp hBank, hIndices⟩
      · rintro ⟨_, _, hParts, hBank, hIndices⟩
        obtain ⟨rfl, rfl⟩ := Prod.mk.inj (Option.some.inj hParts)
        exact bind_eq_ok_iff.mpr ⟨b.indices, hIndices,
          bind_eq_ok_iff.mpr ⟨b.bank, mapError_eq_ok_iff.mpr hBank, rfl⟩⟩

/-! ### Selections -/

/-- A text **asks** for a selection when it is read and the selection is made of what was
read. -/
def Asks (text : String) (s : Selection) : Prop :=
  ∃ b, parse text = .ok b ∧ b.selection = .ok s

/-- Indices of the same number are the same. -/
theorem injective_toNat : Function.Injective UInt8.toNat := fun _ _ => UInt8.toNat_inj.mp

/-- Numbers of eight bits are those of some indices. -/
theorem exists_map_toNat_eq {numbers : List Nat} (h : ∀ n ∈ numbers, n < 256) :
    ∃ indices : List UInt8, indices.map UInt8.toNat = numbers := by
  refine ⟨numbers.map UInt8.ofNat, ?_⟩
  rw [List.map_map]
  calc numbers.map (UInt8.toNat ∘ UInt8.ofNat)
      = numbers.map id := List.map_congr_left fun n hn => UInt8.toNat_ofNat_of_lt' (h n hn)
    _ = numbers := List.map_id numbers

/-- **The selection that a text asks for** is the set of the numbers that it lists, if they are
different and a bank has them all. -/
theorem asks_iff {text : String} {s : Selection} :
    Asks text s ↔ ∃ numbers, Lists text s.bank numbers ∧ s.bank.isHash = true ∧
      (∀ n ∈ numbers, n < 24) ∧ numbers.Nodup ∧
        ∀ index, index ∈ s.indices ↔ index.toNat ∈ numbers := by
  constructor
  · rintro ⟨b, hParse, hSelection⟩
    obtain ⟨hBank, hMem, hInBank, -, hNodup⟩ := Selection.make_eq_ok_iff.mp hSelection
    refine ⟨b.indices.map UInt8.toNat, hBank ▸ parse_eq_ok_iff.mp hParse, hInBank.isHash, ?_,
      hNodup.map injective_toNat, fun index => ?_⟩
    · intro n hn
      obtain ⟨index, hIndex, rfl⟩ := List.mem_map.mp hn
      exact UInt8.lt_iff_toNat_lt.mp (hInBank.lt_pcrCount index ((hMem index).mpr hIndex))
    · rw [hMem, List.mem_map_of_injective injective_toNat]
  · rintro ⟨numbers, hLists, hHash, hRange, hNodup, hMem⟩
    obtain ⟨indices, rfl⟩ := exists_map_toNat_eq fun n hn =>
      Nat.lt_trans (hRange n hn) (by decide)
    simp only [List.mem_map_of_injective injective_toNat] at hMem
    refine ⟨⟨s.bank, indices⟩, parse_eq_ok_iff.mpr hLists, Selection.make_eq_ok_iff.mpr
      ⟨rfl, hMem, ⟨hHash, fun index hIndex => ?_⟩, mt (congrArg _) hLists.ne_nil, hNodup.of_map _⟩⟩
    exact UInt8.lt_iff_toNat_lt.mpr (hRange _ (List.mem_map_of_mem ((hMem index).mp hIndex)))

/-- Numbers that are different and in range, and listed for a hash, are asked for. -/
theorem exists_asks_iff {text : String} :
    (∃ s, Asks text s) ↔ ∃ bank numbers, Lists text bank numbers ∧ bank.isHash = true ∧
      (∀ n ∈ numbers, n < 24) ∧ numbers.Nodup := by
  simp only [asks_iff]
  constructor
  · rintro ⟨s, numbers, hLists, hHash, hRange, hNodup, -⟩
    exact ⟨s.bank, numbers, hLists, hHash, hRange, hNodup⟩
  · rintro ⟨bank, numbers, hLists, hHash, hRange, hNodup⟩
    obtain ⟨indices, rfl⟩ := exists_map_toNat_eq fun n hn =>
      Nat.lt_trans (hRange n hn) (by decide)
    refine ⟨.ofIndices bank indices, _, hLists, hHash, hRange, hNodup, fun index => ?_⟩
    rw [Selection.mem_ofIndices_iff, List.mem_map_of_injective injective_toNat]

/-- **The spelling and the order do not matter.** Texts that list the same numbers of a bank,
in whatever order, ask for the same selection. -/
theorem asks_congr {text text' : String} {bank : Algorithm} {numbers numbers' : List Nat}
    (h : Lists text bank numbers) (h' : Lists text' bank numbers') (hPerm : numbers.Perm numbers')
    {s : Selection} (hAsks : Asks text s) : Asks text' s := by
  obtain ⟨_, hLists, hHash, hRange, hNodup, hMem⟩ := asks_iff.mp hAsks
  obtain ⟨rfl, rfl⟩ := hLists.unique h
  exact asks_iff.mpr ⟨numbers', h', hHash, fun n hn => hRange n (hPerm.mem_iff.mpr hn),
    hPerm.nodup_iff.mp hNodup, fun index => (hMem index).trans hPerm.mem_iff⟩

/-- The wording of a fault of an index **names** it. -/
theorem message_of_faultOf {bank : Algorithm} {earlier : List UInt8} {index : UInt8}
    {fault : SelectionFault} (h : Selection.FaultOf bank earlier index fault) :
    ∃ rest : String, fault.message = "PCR " ++ toString index.toNat ++ rest := by
  have hText : ∀ s : String, toString s = s := fun _ => rfl
  rcases h with ⟨-, rfl⟩ | ⟨-, -, rfl⟩
  · unfold SelectionFault.message
    generalize toString pcrCount.toNat = count
    exact ⟨" out of range for " ++ bank.name ++ " bank (0.." ++ count ++ ")",
      by simp only [hText, String.append_assoc]⟩
  · unfold SelectionFault.message
    exact ⟨" selected twice in " ++ bank.name ++ " bank",
      by simp only [hText, String.append_assoc]⟩

/-- **A list of PCRs means what it says.** What is read is what the text lists. The text asks
for a selection when it lists different numbers in range for one of the four hashes, and then
for these numbers, whatever their order and their spelling. What is refused of a list is the
first index that is out of range or repeats an earlier one, and the wording begins with it. -/
theorem asks_of_lists (text : String) :
    (∀ b, parse text = .ok b ↔ Lists text b.bank (b.indices.map UInt8.toNat)) ∧
    ((∃ s, Asks text s) ↔ ∃ bank numbers, Lists text bank numbers ∧
      bank ∈ [.sha1, .sha256, .sha384, .sha512] ∧ (∀ n ∈ numbers, n < 24) ∧ numbers.Nodup) ∧
    (∀ s bank numbers, Asks text s → Lists text bank numbers →
      s.bank = bank ∧ ∀ index, index ∈ s.indices ↔ index.toNat ∈ numbers) ∧
    (∀ text' bank numbers numbers', Lists text bank numbers → Lists text' bank numbers' →
      numbers.Perm numbers' → ∀ s, Asks text s ↔ Asks text' s) ∧
    ∀ b : PcrBank, b.bank.isHash = true → b.indices ≠ [] → ∀ fault,
      (b.selection = .error fault ↔ Selection.FirstFault b.bank b.indices fault) ∧
      ∀ earlier index, Selection.FaultOf b.bank earlier index fault →
        ∃ rest : String, fault.message = "PCR " ++ toString index.toNat ++ rest := by
  refine ⟨fun b => parse_eq_ok_iff, ?_, ?_, ?_, ?_⟩
  · simp only [← Algorithm.isHash_iff_mem]
    exact exists_asks_iff
  · intro s bank numbers hAsks hLists
    obtain ⟨_, hLists', -, -, -, hMem⟩ := asks_iff.mp hAsks
    obtain ⟨rfl, rfl⟩ := hLists'.unique hLists
    exact ⟨rfl, hMem⟩
  · intro text' bank numbers numbers' hLists hLists' hPerm s
    exact ⟨asks_congr hLists hLists' hPerm, asks_congr hLists' hLists hPerm.symm⟩
  · intro b hHash hNe fault
    exact ⟨Selection.make_eq_error_iff hHash hNe, fun _ _ => message_of_faultOf⟩

/-! ### Two spellings, and two things to refuse -/

namespace TwoSpellings

/-- Two numbers of a bank as they are usually written. -/
def plain : String := "sha256:0,23"

/-- The same numbers in another order, with signs, zeros and white space. -/
def adorned : String := "Sha-256: +23\t,000"

/-- The plain spelling lists the two numbers. -/
theorem lists_plain : Lists plain .sha256 [0, 23] :=
  parse_eq_ok_iff.mp (by decide +kernel : parse plain = .ok ⟨.sha256, [0, 23]⟩)

theorem lists_adorned : Lists adorned .sha256 [23, 0] :=
  parse_eq_ok_iff.mp (by decide +kernel : parse adorned = .ok ⟨.sha256, [23, 0]⟩)

/-- A request with a number out of range, and behind it one that is repeated. -/
def refused : PcrBank := ⟨.sha1, [3, 24, 3]⟩

end TwoSpellings

open TwoSpellings in
/-- Two spellings ask for one selection, and of a list with two faults the first is named. -/
theorem asks_of_lists_spelled_twice :
    (∃ s, Asks plain s ∧ Asks adorned s ∧ s.bank = .sha256 ∧
      ∀ index, index ∈ s.indices ↔ index.toNat ∈ [0, 23]) ∧
    refused.selection = .error (.outOfRange .sha1 24) := by
  obtain ⟨-, hExists, hMeans, hSame, hFaults⟩ := asks_of_lists plain
  obtain ⟨s, hAsks⟩ := hExists.mpr ⟨.sha256, [0, 23], lists_plain, by simp, by simp, by simp⟩
  obtain ⟨hBank, hMem⟩ := hMeans s _ _ hAsks lists_plain
  have hOther := (hSame adorned _ _ _ lists_plain lists_adorned (.swap _ _ _) s).mp hAsks
  refine ⟨⟨s, hAsks, hOther, hBank, hMem⟩, ?_⟩
  have hFirst : Selection.FirstFault .sha1 [3, 24, 3] (.outOfRange .sha1 24) :=
    ⟨[3], 24, [3], rfl, List.forall_mem_singleton.mpr (by decide), List.nodup_singleton 3,
      .inl ⟨by decide, rfl⟩⟩
  exact (hFaults refused rfl (List.cons_ne_nil _ _) _).1.mpr hFirst

end PcrBank

end RemoteAttestation
