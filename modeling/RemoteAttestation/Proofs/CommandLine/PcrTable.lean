import Mathlib.Data.String.Basic
import RemoteAttestation.CommandLine.PcrFile
import RemoteAttestation.Proofs.Algorithm
import RemoteAttestation.Proofs.Pcr.Values
import RemoteAttestation.Proofs.Results
import RemoteAttestation.Proofs.Text.Numeral

/-!
# What a Table of PCR Values Spells

A table is known by what it spells (`PcrTable.Spells`), and each spelling denotes a value in a
slot or nothing at all (`PcrTable.Denotes`). It can be read when its banks are named and each
of its spellings denotes something (`PcrTable.Readable`).

Banks and indices have more than one spelling, so two spellings may denote values in one slot.
They are read in the order of the names, and the one that is read last counts
(`PcrTable.SpelledLast`). What a table spells for a slot is lost just when it is not the last,
so nothing is lost from a table whose spellings agree.

## Main results

* `PcrTable.exists_values_eq_ok_iff`: which tables can be read.
* `PcrTable.values_eq_ok_iff`: the values of a table, in each slot those spelled last.
* `PcrTable.keeps_iff`: when no spelling is lost.
* `PcrTable.exists_values_eq_ok`: the values of a table whose spellings agree.
-/

namespace RemoteAttestation.PcrTable

/-! ### Spellings -/

/-- A table **spells** a text for an index of a bank when it has it at their names. -/
def Spells (table : PcrTable) (name index text : String) : Prop :=
  ∃ bank : TextMap, Std.ExtTreeMap.get? table name = some bank ∧ bank[index]? = some text

/-- What is spelled **denotes** a value in a slot: the names are those of a hash and of an
index, and the text is a value of the right size. -/
structure Denotes (name index text : String) (slot : Slot) (value : Bytes) : Prop where
  /-- The bank's name names the algorithm. -/
  bank : Algorithm.ofName name = .ok slot.bank
  /-- The index is written in decimal. -/
  index : Numeral.read 10 256 index.toList = .ok slot.index.toNat
  /-- The text is the value in hexadecimal. -/
  decoded : Hex.decode text = .ok value
  /-- The value has the size of the bank's digests. -/
  size : slot.bank.digestSize? = some value.length

/-- What the spellings of a table **denote** together. -/
def Holds (table : PcrTable) (slot : Slot) (value : Bytes) : Prop :=
  ∃ name index text, Spells table name index text ∧ Denotes name index text slot value

/-- A table that can be **read**. -/
structure Readable (table : PcrTable) : Prop where
  /-- The name of each bank is that of a hash. -/
  banks : ∀ name bank, Std.ExtTreeMap.get? table name = some bank →
    ∃ algorithm, Algorithm.ofName name = .ok algorithm ∧ algorithm.isHash = true
  /-- Each spelling denotes something. -/
  spellings : ∀ name index text, Spells table name index text →
    ∃ slot value, Denotes name index text slot value

/-- The value that is **spelled last** for a slot. Names are read in ascending order, and the
indices below a name too. -/
def SpelledLast (table : PcrTable) (slot : Slot) (value : Bytes) : Prop :=
  ∃ name index text, Spells table name index text ∧ Denotes name index text slot value ∧
    ∀ name' index' text' value', Spells table name' index' text' →
      Denotes name' index' text' slot value' → ¬ (name < name' ∨ name = name' ∧ index < index')

/-- A spelling denotes **one** value in one slot. -/
theorem Denotes.unique {name index text : String} {slot slot' : Slot} {value value' : Bytes}
    (h : Denotes name index text slot value) (h' : Denotes name index text slot' value') :
    slot = slot' ∧ value = value' := by
  have hBank : slot.bank = slot'.bank := Except.ok.inj (h.bank.symm.trans h'.bank)
  have hIndex : slot.index = slot'.index :=
    UInt8.toNat_inj.mp (Except.ok.inj (h.index.symm.trans h'.index))
  exact ⟨Slot.eq_of_fields hBank hIndex, Except.ok.inj (h.decoded.symm.trans h'.decoded)⟩

/-! ### The order of the spellings -/

/-- What a table spells in one place. -/
structure Spelling where
  /-- The name of a bank. -/
  name : String
  /-- An index of the bank. -/
  index : String
  /-- The text. -/
  text : String

namespace Spelling

/-- One spelling is read **before** another. -/
def Before (s s' : Spelling) : Prop :=
  s.name < s'.name ∨ s.name = s'.name ∧ s.index < s'.index

/-- Of two spellings at most one comes before the other. -/
theorem Before.asymm (s s' : Spelling) (h : Before s s') : ¬ Before s' s := by
  rintro (hName | ⟨hName, hIndex⟩)
  · rcases h with hName' | ⟨hName', -⟩
    · exact lt_asymm hName hName'
    · exact absurd hName' hName.ne'
  · rcases h with hName' | ⟨-, hIndex'⟩
    · exact absurd hName hName'.ne'
    · exact lt_asymm hIndex hIndex'

/-- The slot and the value that a spelling denotes. -/
def DenotesEntry (s : Spelling) (entry : Slot × Bytes) : Prop :=
  Denotes s.name s.index s.text entry.1 entry.2

/-- A spelling denotes one value in one slot. -/
theorem DenotesEntry.unique (s : Spelling) (entry entry' : Slot × Bytes)
    (h : s.DenotesEntry entry) (h' : s.DenotesEntry entry') : entry = entry' :=
  Prod.ext (Denotes.unique h h').1 (Denotes.unique h h').2

end Spelling

/-- The spellings of a bank. -/
def bankSpellings (entry : String × TextMap) : List Spelling :=
  entry.2.toList.map fun (index, text) => ⟨entry.1, index, text⟩

/-- The **spellings** of a table, in the order in which they are read. -/
def spellings (table : PcrTable) : List Spelling :=
  (table.toList.map bankSpellings).flatten

/-- The spellings of a table are what it spells. -/
theorem mem_spellings_iff {table : PcrTable} {s : Spelling} :
    s ∈ table.spellings ↔ table.Spells s.name s.index s.text := by
  simp only [spellings, List.mem_flatten, List.mem_map, bankSpellings, Spells]
  constructor
  · rintro ⟨_, ⟨⟨name, bank⟩, hBank, rfl⟩, hMem⟩
    obtain ⟨⟨index, text⟩, hText, rfl⟩ := List.mem_map.mp hMem
    exact ⟨bank, Std.ExtTreeMap.mem_toList_iff_getElem?_eq_some.mp hBank,
      Std.ExtTreeMap.mem_toList_iff_getElem?_eq_some.mp hText⟩
  · rintro ⟨bank, hBank, hText⟩
    exact ⟨_, ⟨(s.name, bank), Std.ExtTreeMap.mem_toList_iff_getElem?_eq_some.mpr hBank, rfl⟩,
      List.mem_map.mpr ⟨(s.index, s.text), Std.ExtTreeMap.mem_toList_iff_getElem?_eq_some.mpr hText,
        rfl⟩⟩

/-- The spellings are listed in the order in which they are read. -/
theorem spellings_ascending (table : PcrTable) : table.spellings.Pairwise Spelling.Before := by
  rw [spellings, List.pairwise_flatten, List.pairwise_map]
  constructor
  · intro l hl
    obtain ⟨⟨name, bank⟩, -, rfl⟩ := List.mem_map.mp hl
    rw [bankSpellings, List.pairwise_map]
    exact Std.ExtTreeMap.ordered_keys_toList.imp fun h => .inr ⟨rfl, compare_lt_iff_lt.mp h⟩
  · refine Std.ExtTreeMap.ordered_keys_toList.imp fun h s hs s' hs' => ?_
    obtain ⟨_, -, rfl⟩ := List.mem_map.mp hs
    obtain ⟨_, -, rfl⟩ := List.mem_map.mp hs'
    exact .inl (compare_lt_iff_lt.mp h)

/-- To be spelled last in a table is to be denoted last in its list of spellings. -/
theorem spelledLast_iff {table : PcrTable} {slot : Slot} {value : Bytes} :
    table.SpelledLast slot value ↔
      DenotedLast Spelling.Before Spelling.DenotesEntry table.spellings slot value := by
  constructor
  · rintro ⟨name, index, text, hSpells, hDenotes, hLast⟩
    exact ⟨⟨name, index, text⟩, mem_spellings_iff.mpr hSpells, hDenotes,
      fun other hOther value' h => hLast _ _ _ value' (mem_spellings_iff.mp hOther) h⟩
  · rintro ⟨s, hs, hDenotes, hLast⟩
    exact ⟨s.name, s.index, s.text, mem_spellings_iff.mp hs, hDenotes,
      fun name index text value' hSpells h =>
        hLast ⟨name, index, text⟩ (mem_spellings_iff.mpr hSpells) value' h⟩

/-- Something is spelled last for a slot just when something is spelled for it. -/
theorem exists_spelledLast_iff {table : PcrTable} {slot : Slot} :
    (∃ value, table.SpelledLast slot value) ↔ ∃ value, table.Holds slot value := by
  simp only [spelledLast_iff,
    exists_denotedLast_iff Spelling.Before.asymm table.spellings_ascending]
  constructor
  · rintro ⟨s, hs, value, hDenotes⟩
    exact ⟨value, s.name, s.index, s.text, mem_spellings_iff.mp hs, hDenotes⟩
  · rintro ⟨value, name, index, text, hSpells, hDenotes⟩
    exact ⟨⟨name, index, text⟩, mem_spellings_iff.mpr hSpells, value, hDenotes⟩

/-- A value that is spelled last is one that the table holds. -/
theorem SpelledLast.holds {table : PcrTable} {slot : Slot} {value : Bytes}
    (h : table.SpelledLast slot value) : table.Holds slot value := by
  obtain ⟨name, index, text, hSpells, hDenotes, -⟩ := h
  exact ⟨name, index, text, hSpells, hDenotes⟩

/-! ### Reading -/

/-- A member is read as the slot and the value that it denotes. -/
theorem readEntry_eq_ok_iff {name index text : String} {bank : Algorithm} {size : Nat}
    (hBank : Algorithm.ofName name = .ok bank) (hSize : bank.digestSize? = some size)
    {slot : Slot} {value : Bytes} :
    readEntry name bank size (index, text) = .ok (slot, value) ↔
      Denotes name index text slot value := by
  rw [readEntry, bind_eq_ok_iff]
  constructor
  · rintro ⟨n, hIndex, h⟩
    rw [mapError_eq_ok_iff] at hIndex
    obtain ⟨octets, hHex, h⟩ := bind_eq_ok_iff.mp h
    rw [mapError_eq_ok_iff] at hHex
    have hNumber : (UInt8.ofNat n).toNat = n :=
      UInt8.toNat_ofNat_of_lt' ((Numeral.read_eq_ok_iff (by decide)).mp hIndex).2
    split at h
    · cases h
    rename_i hLength
    obtain ⟨rfl, rfl⟩ := Prod.mk.inj (Except.ok.inj h)
    refine ⟨hBank, ?_, hHex, ?_⟩
    · rw [hNumber]
      exact hIndex
    · rw [hSize, not_not.mp hLength]
  · rintro ⟨hName, hIndex, hHex, hValue⟩
    obtain rfl : slot.bank = bank := Except.ok.inj (hName.symm.trans hBank)
    refine ⟨_, mapError_eq_ok_iff.mpr hIndex, bind_eq_ok_iff.mpr
      ⟨value, mapError_eq_ok_iff.mpr hHex, ?_⟩⟩
    have hLength : ¬ value.length ≠ size := not_not.mpr (Option.some.inj (hValue.symm.trans hSize))
    rw [if_neg hLength, UInt8.ofNat_toNat]
    rfl

/-- A bank is read when its name is that of a hash, and each of its values is read with the
size of that hash. -/
theorem readBank_eq_ok_iff {name : String} {bank : TextMap} {entries : List (Slot × Bytes)} :
    readBank (name, bank) = .ok entries ↔
      ∃ algorithm size, Algorithm.ofName name = .ok algorithm ∧
        algorithm.digestSize? = some size ∧
          bank.toList.mapM (readEntry name algorithm size) = .ok entries := by
  rw [readBank, bind_eq_ok_iff]
  constructor
  · rintro ⟨algorithm, hName, h⟩
    rw [mapError_eq_ok_iff] at hName
    split at h
    · rename_i size hSize
      exact ⟨algorithm, size, hName, hSize, h⟩
    · cases h
  · rintro ⟨algorithm, size, hName, hSize, h⟩
    refine ⟨algorithm, mapError_eq_ok_iff.mpr hName, ?_⟩
    rw [hSize]
    exact h

/-- A bank that is read gives what its spellings denote, one by one. -/
theorem forall₂_of_readBank_eq_ok {entry : String × TextMap} {entries : List (Slot × Bytes)}
    (h : readBank entry = .ok entries) :
    List.Forall₂ Spelling.DenotesEntry (bankSpellings entry) entries := by
  obtain ⟨algorithm, size, hName, hSize, hEntries⟩ := readBank_eq_ok_iff.mp h
  rw [bankSpellings, List.forall₂_map_left_iff]
  exact (mapM_eq_ok_iff.mp hEntries).imp fun _ _ h => (readEntry_eq_ok_iff hName hSize).mp h

/-- A bank is read when its name is that of a hash and each of its members denotes
something. -/
theorem exists_readBank_eq_ok_iff {name : String} {bank : TextMap} :
    (∃ entries, readBank (name, bank) = .ok entries) ↔
      (∃ algorithm, Algorithm.ofName name = .ok algorithm ∧ algorithm.isHash = true) ∧
        ∀ index text, bank[index]? = some text →
          ∃ slot value, Denotes name index text slot value := by
  constructor
  · rintro ⟨entries, hRead⟩
    obtain ⟨algorithm, size, hName, hSize, hEntries⟩ := readBank_eq_ok_iff.mp hRead
    refine ⟨⟨algorithm, hName, Algorithm.isHash_iff_digestSize?.mpr ⟨size, hSize⟩⟩,
      fun index text hText => ?_⟩
    obtain ⟨⟨slot, value⟩, hEntry⟩ := exists_eq_ok_of_mapM_eq_ok hEntries
      (Std.ExtTreeMap.mem_toList_iff_getElem?_eq_some.mpr hText)
    exact ⟨slot, value, (readEntry_eq_ok_iff hName hSize).mp hEntry⟩
  · rintro ⟨⟨algorithm, hName, hHash⟩, hMembers⟩
    obtain ⟨size, hSize⟩ := Algorithm.isHash_iff_digestSize?.mp hHash
    have hEntries : ∀ entry ∈ bank.toList,
        ∃ read, readEntry name algorithm size entry = .ok read := by
      rintro ⟨index, text⟩ hMem
      obtain ⟨slot, value, hDenotes⟩ :=
        hMembers index text (Std.ExtTreeMap.mem_toList_iff_getElem?_eq_some.mp hMem)
      exact ⟨(slot, value), (readEntry_eq_ok_iff hName hSize).mpr hDenotes⟩
    obtain ⟨entries, hRead⟩ := exists_mapM_eq_ok hEntries
    exact ⟨entries, readBank_eq_ok_iff.mpr ⟨algorithm, size, hName, hSize, hRead⟩⟩

/-- The values of a table are those of its banks, put together in the order of the names. -/
theorem exists_lists_iff {table : PcrTable} {v : PcrValues} :
    values table = .ok v ↔ ∃ lists, table.toList.mapM readBank = .ok lists ∧
      v = PcrValues.empty.insertAll lists.flatten := by
  rw [values, bind_eq_ok_iff]
  exact exists_congr fun lists => and_congr_right fun _ =>
    ⟨fun h => (Except.ok.inj h).symm, fun h => congrArg Except.ok h.symm⟩

/-- **Which tables can be read.** -/
theorem exists_values_eq_ok_iff {table : PcrTable} :
    (∃ v, values table = .ok v) ↔ table.Readable := by
  constructor
  · rintro ⟨v, hValues⟩
    obtain ⟨lists, hLists, -⟩ := exists_lists_iff.mp hValues
    have hBank : ∀ name bank, Std.ExtTreeMap.get? table name = some bank →
        ∃ entries, readBank (name, bank) = .ok entries := fun name bank hGet =>
      exists_eq_ok_of_mapM_eq_ok hLists (Std.ExtTreeMap.mem_toList_iff_getElem?_eq_some.mpr hGet)
    refine ⟨fun name bank hGet => (exists_readBank_eq_ok_iff.mp (hBank name bank hGet)).1, ?_⟩
    rintro name index text ⟨bank, hGet, hText⟩
    exact (exists_readBank_eq_ok_iff.mp (hBank name bank hGet)).2 index text hText
  · rintro ⟨hBanks, hSpells⟩
    have hBank : ∀ entry ∈ table.toList, ∃ entries, readBank entry = .ok entries := by
      rintro ⟨name, bank⟩ hMem
      have hGet := Std.ExtTreeMap.mem_toList_iff_getElem?_eq_some.mp hMem
      exact exists_readBank_eq_ok_iff.mpr ⟨hBanks name bank hGet, fun index text hText =>
        hSpells name index text ⟨bank, hGet, hText⟩⟩
    obtain ⟨lists, hLists⟩ := exists_mapM_eq_ok hBank
    exact ⟨_, exists_lists_iff.mpr ⟨lists, hLists, rfl⟩⟩

/-- A table that is read has in each slot the value that is **spelled last**. -/
theorem get?_eq_some_iff_of_values {table : PcrTable} {v : PcrValues} (h : values table = .ok v)
    {slot : Slot} {value : Bytes} : v.get? slot = some value ↔ table.SpelledLast slot value := by
  obtain ⟨lists, hLists, rfl⟩ := exists_lists_iff.mp h
  have hEntries : List.Forall₂ Spelling.DenotesEntry table.spellings lists.flatten := by
    rw [spellings]
    refine List.rel_flatten (List.forall₂_map_left_iff.mpr ?_)
    exact (mapM_eq_ok_iff.mp hLists).imp fun _ _ => forall₂_of_readBank_eq_ok
  rw [PcrValues.get?, PcrValues.bySlot_insertAll, spelledLast_iff,
    getElem?_foldl_insert_iff_denotedLast Spelling.Before.asymm Spelling.DenotesEntry.unique
      table.spellings_ascending hEntries]
  simp [PcrValues.empty]

/-- **The values of a table**: it can be read, and in each slot is the value spelled last. -/
theorem values_eq_ok_iff {table : PcrTable} {v : PcrValues} :
    values table = .ok v ↔
      table.Readable ∧ ∀ slot value, v.get? slot = some value ↔ table.SpelledLast slot value := by
  constructor
  · intro h
    exact ⟨exists_values_eq_ok_iff.mp ⟨v, h⟩, fun slot value => get?_eq_some_iff_of_values h⟩
  · rintro ⟨hReadable, hGet⟩
    obtain ⟨w, hValues⟩ := exists_values_eq_ok_iff.mpr hReadable
    obtain rfl : w = v := PcrValues.ext_get? fun slot value =>
      (get?_eq_some_iff_of_values hValues).trans (hGet slot value).symm
    exact hValues

/-- **No spelling is lost** from a table just when no two of them denote different values in
one slot. -/
theorem keeps_iff {table : PcrTable} {v : PcrValues} (h : values table = .ok v) :
    (∀ slot value, table.Holds slot value → v.get? slot = some value) ↔
      ∀ slot value value', table.Holds slot value → table.Holds slot value' → value = value' := by
  constructor
  · intro hKeeps slot value value' hValue hValue'
    exact Option.some.inj ((hKeeps slot value hValue).symm.trans (hKeeps slot value' hValue'))
  · intro hAgree slot value hValue
    obtain ⟨last, hLast⟩ := exists_spelledLast_iff.mpr ⟨value, hValue⟩
    obtain rfl := hAgree slot value last hValue hLast.holds
    exact (get?_eq_some_iff_of_values h).mpr hLast

/-- **The values of a table** are those that its spellings denote, when each of them denotes
something and no two of them disagree. -/
theorem exists_values_eq_ok {table : PcrTable} (hReadable : table.Readable)
    (hAgree : ∀ slot value value', Holds table slot value → Holds table slot value' →
      value = value') :
    ∃ v, values table = .ok v ∧
      ∀ slot value, v.get? slot = some value ↔ Holds table slot value := by
  obtain ⟨v, hValues⟩ := exists_values_eq_ok_iff.mpr hReadable
  refine ⟨v, hValues, fun slot value => ⟨fun hGet => ?_, (keeps_iff hValues).mpr hAgree slot value⟩⟩
  exact ((get?_eq_some_iff_of_values hValues).mp hGet).holds

end RemoteAttestation.PcrTable
