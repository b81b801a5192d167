import RemoteAttestation.Proofs.Bytes.Hex
import RemoteAttestation.Proofs.CommandLine.PcrTable
import RemoteAttestation.Proofs.Json.Layout

/-!
# Files of PCR Values, Written and Read

A file of PCR values goes through two forms: the values become a table of texts, and the table
becomes JSON. The canonical spellings denote what they were made of, so a file that was written
from values is read as these values.

Not all values can be written: a bank has to be a hash, and a value has to have the size of its
digests (`PcrValues.Sized`).

## Main results

* `PcrTable.ofText?_pretty`: a printed table is read back.
* `PcrValues.ofText_file`: the values in a file that was written from them.
* `PcrValues.ofText_file_of_not_sized`: the fault of a file with a value of another size.
-/

namespace RemoteAttestation

namespace PcrTable

/-! ### JSON -/

/-- An object that is printed from a map is read as that map, if its members are. -/
theorem mapOf?_source {α : Type} {read? : JsonSource → Option α} (write : α → Json)
    (h : ∀ value, read? (write value).source = some value) (map : Std.ExtTreeMap String α) :
    mapOf? read? (Json.object (map.toList.map fun entry => (entry.1, write entry.2))).source =
      some map := by
  have hEntries : ∀ entries : List (String × α),
      ((entries.map fun entry => (entry.1, write entry.2)).map fun member =>
        (member.1, member.2.source)).mapM (fun entry => (read? entry.2).map (entry.1, ·)) =
          some entries := by
    intro entries
    induction entries with
    | nil => rfl
    | cons entry entries ih =>
        rw [List.map_cons, List.map_cons, List.mapM_cons, ih]
        dsimp only
        rw [h]
        rfl
  rw [mapOf?, Json.source, Json.members?_memberSources, Option.bind_eq_bind, Option.bind_some,
    hEntries]
  exact congrArg some (foldl_insert_toList map)

/-- **A printed table is read back.** -/
theorem ofText?_pretty (table : PcrTable) (tail : String) (hTail : tail = "" ∨ tail = "\n") :
    ofText? (table.json.pretty ++ tail) = some table := by
  have hBank : ∀ bank : TextMap, mapOf? JsonSource.text?
      (Json.object (bank.toList.map fun entry => (entry.1, .string entry.2))).source = some bank :=
    mapOf?_source Json.string (fun _ => rfl)
  rw [ofText?, JsonDocument.ofText_pretty _ _ hTail]
  exact mapOf?_source (fun bank : TextMap =>
    .object (bank.toList.map fun entry => (entry.1, .string entry.2))) hBank table

/-! ### Canonical spellings -/

/-- The **canonical** spelling of a value in a slot. -/
def Canonical (name index text : String) (slot : Slot) (value : Bytes) : Prop :=
  name = slot.bank.name ∧ index = toString slot.index.toNat ∧ text = Hex.encode value

/-- The canonical spelling of a value **denotes** it, if the value has the size of its bank. -/
theorem Canonical.denotes {name index text : String} {slot : Slot} {value : Bytes}
    (h : Canonical name index text slot value) (hSize : slot.bank.digestSize? = some value.length) :
    Denotes name index text slot value := by
  obtain ⟨rfl, rfl, rfl⟩ := h
  exact ⟨Algorithm.ofName_name _, Numeral.read_toString slot.index.toNat_lt, Hex.decode_encode _,
    hSize⟩

/-- A canonical spelling is read if the value has the **size** of the bank's digests. -/
theorem Canonical.readEntry_eq {name index text : String} {slot : Slot} {value : Bytes}
    (h : Canonical name index text slot value) (size : Nat) :
    readEntry name slot.bank size (index, text) =
      if value.length ≠ size then .error (.wrongSize name slot.index value.length size)
      else .ok (slot, value) := by
  obtain ⟨rfl, rfl, rfl⟩ := h
  rw [readEntry, Numeral.read_toString slot.index.toNat_lt, Hex.decode_encode]
  simp only [mapError_ok, bind, Except.bind, UInt8.ofNat_toNat]
  split <;> rfl

/-- The names of a slot are its own. -/
theorem Canonical.slot_eq {name index text text' : String} {slot slot' : Slot}
    {value value' : Bytes} (h : Canonical name index text slot value)
    (h' : Canonical name index text' slot' value') :
    slot = slot' := by
  obtain ⟨rfl, rfl, -⟩ := h
  obtain ⟨hName, hIndex, -⟩ := h'
  have hBank : slot.bank = slot'.bank := Algorithm.name_inj hName
  have hRead := Numeral.read_toString slot.index.toNat_lt
  rw [hIndex, Numeral.read_toString slot'.index.toNat_lt] at hRead
  exact Slot.eq_of_fields hBank (UInt8.toNat_inj.mp (Except.ok.inj hRead)).symm

/-- A spelling with one more value: at the names of its slot, the table spells the value. -/
theorem spells_insert_iff {table : PcrTable} {slot : Slot} {value : Bytes}
    {name index text : String} :
    Spells (insert table slot value) name index text ↔
      if name = slot.bank.name ∧ index = toString slot.index.toNat then text = Hex.encode value
      else Spells table name index text := by
  have hTable : ∀ bank : TextMap,
      Std.ExtTreeMap.get? (Std.ExtTreeMap.insert table slot.bank.name bank) name =
        if slot.bank.name = name then some bank else Std.ExtTreeMap.get? table name := by
    intro bank
    change (Std.ExtTreeMap.insert table slot.bank.name bank)[name]? = _
    rw [Std.ExtTreeMap.getElem?_insert]
    simp only [Std.compare_eq_iff_eq]
    rfl
  rw [Spells, insert]
  simp only [hTable]
  by_cases hName : slot.bank.name = name
  · subst hName
    simp only [if_true, Option.some.injEq, exists_eq_left', true_and,
      Std.ExtTreeMap.getElem?_insert, Std.compare_eq_iff_eq]
    by_cases hIndex : index = toString slot.index.toNat
    · simp only [hIndex, if_true, Option.some.injEq, eq_comm]
    · rw [if_neg (Ne.symm hIndex), if_neg hIndex, Spells]
      cases Std.ExtTreeMap.get? table slot.bank.name with
      | none => simp
      | some bank => simp
  · have hNames : ¬ (name = slot.bank.name ∧ index = toString slot.index.toNat) := fun h =>
      hName h.1.symm
    rw [if_neg hNames]
    simp only [hName, if_false]
    rfl

/-- Putting a value into a table adds its bank, and takes none away. -/
theorem get?_insert_isSome_iff {table : PcrTable} {slot : Slot} {value : Bytes} {name : String} :
    (Std.ExtTreeMap.get? (insert table slot value) name).isSome = true ↔
      name = slot.bank.name ∨ (Std.ExtTreeMap.get? table name).isSome = true := by
  change (Std.ExtTreeMap.insert table slot.bank.name _)[name]?.isSome = true ↔ _
  rw [Std.ExtTreeMap.getElem?_insert]
  simp only [Std.compare_eq_iff_eq]
  by_cases hName : slot.bank.name = name
  · simp [hName]
  · rw [if_neg hName]
    simp only [Ne.symm hName, false_or]
    rfl

/-- A table that is filled with values whose entries agree spells just these values. -/
theorem spells_foldl_insert_iff {entries : List (Slot × Bytes)} (h : Agree entries)
    {name index text : String} :
    Spells (entries.foldl (fun table entry => insert table entry.1 entry.2) ∅) name index text ↔
      ∃ slot value, (slot, value) ∈ entries ∧ Canonical name index text slot value := by
  induction entries using List.reverseRecOn with
  | nil =>
      rw [List.foldl_nil]
      constructor
      · rintro ⟨bank, hBank, -⟩
        cases hBank
      · rintro ⟨slot, value, hMem, -⟩
        cases hMem
  | append_singleton entries last ih =>
      obtain ⟨slot, value⟩ := last
      have hInit : Agree entries := fun k v v' hv hv' =>
        h k v v' (List.mem_append_left _ hv) (List.mem_append_left _ hv')
      rw [List.foldl_append, List.foldl_cons, List.foldl_nil, spells_insert_iff, ih hInit]
      constructor
      · intro hSpells
        split at hSpells
        · rename_i hNames
          exact ⟨slot, value, by simp, hNames.1, hNames.2, hSpells⟩
        · obtain ⟨other, otherValue, hMem, hCanonical⟩ := hSpells
          exact ⟨other, otherValue, List.mem_append_left _ hMem, hCanonical⟩
      · rintro ⟨other, otherValue, hMem, hCanonical⟩
        split
        · rename_i hNames
          have hLast : Canonical name index (Hex.encode value) slot value :=
            ⟨hNames.1, hNames.2, rfl⟩
          obtain rfl := hLast.slot_eq hCanonical
          obtain rfl := h slot value otherValue (by simp) hMem
          exact hCanonical.2.2
        · rename_i hNames
          rcases List.mem_append.mp hMem with hEarlier | hLast
          · exact ⟨other, otherValue, hEarlier, hCanonical⟩
          · obtain ⟨rfl, rfl⟩ := Prod.mk.inj (List.mem_singleton.mp hLast)
            exact absurd ⟨hCanonical.1, hCanonical.2.1⟩ hNames

/-- The banks of a filled table are those of its entries. -/
theorem get?_foldl_insert_isSome {entries : List (Slot × Bytes)} {table : PcrTable} {name : String}
    (h : (Std.ExtTreeMap.get? (entries.foldl (fun table entry => insert table entry.1 entry.2)
      table) name).isSome = true) :
    (Std.ExtTreeMap.get? table name).isSome = true ∨
      ∃ entry ∈ entries, name = entry.1.bank.name := by
  induction entries generalizing table with
  | nil => exact .inl h
  | cons entry entries ih =>
      rcases ih h with hGet | ⟨other, hMem, hName⟩
      · rcases get?_insert_isSome_iff.mp hGet with hName | hTable
        · exact .inr ⟨entry, List.mem_cons_self, hName⟩
        · exact .inl hTable
      · exact .inr ⟨other, List.mem_cons_of_mem _ hMem, hName⟩

end PcrTable

namespace PcrValues

/-- Values that can be written: each has the **size** of its bank's digests. -/
def Sized (v : PcrValues) : Prop :=
  ∀ slot value, v.get? slot = some value → slot.bank.digestSize? = some value.length

/-- The table of some values spells each of them in the canonical way, and nothing else. -/
theorem spells_table_iff {v : PcrValues} {name index text : String} :
    v.table.Spells name index text ↔
      ∃ slot value, v.get? slot = some value ∧
        PcrTable.Canonical name index text slot value := by
  simp only [← mem_toList_iff]
  exact PcrTable.spells_foldl_insert_iff v.toList_agree

/-- The banks of a table of values are those of the values. -/
theorem exists_of_get?_table {v : PcrValues} {name : String} {bank : TextMap}
    (h : Std.ExtTreeMap.get? v.table name = some bank) :
    ∃ slot value, v.get? slot = some value ∧ name = slot.bank.name := by
  rcases PcrTable.get?_foldl_insert_isSome (Option.isSome_iff_exists.mpr ⟨bank, h⟩) with
    hEmpty | ⟨⟨slot, value⟩, hMem, hName⟩
  · cases hEmpty
  · exact ⟨slot, value, mem_toList_iff.mp hMem, hName⟩

/-- There is nothing in the empty collection that could have another size. -/
theorem sized_empty : empty.Sized := by
  intro slot value hGet
  rw [get?_empty] at hGet
  cases hGet

/-- A value of the right size may be **added**. -/
theorem Sized.insert {v : PcrValues} {slot : Slot} {value : Bytes} (h : v.Sized)
    (hSize : slot.bank.digestSize? = some value.length) : (v.insert slot value).Sized := by
  intro other otherValue hGet
  rw [get?_insert] at hGet
  split at hGet
  · rename_i hSlot
    rw [← hSlot, ← Option.some.inj hGet]
    exact hSize
  · exact h other otherValue hGet

/-- The table of values of the right sizes spells **these values**. -/
theorem values_table {v : PcrValues} (h : v.Sized) : PcrTable.values v.table = .ok v := by
  have hDenotes : ∀ {name index text slot value}, v.get? slot = some value →
      PcrTable.Canonical name index text slot value →
        PcrTable.Denotes name index text slot value :=
    fun hGet hCanonical => hCanonical.denotes (h _ _ hGet)
  have hHolds : ∀ slot value, v.table.Holds slot value ↔ v.get? slot = some value := by
    intro slot value
    constructor
    · rintro ⟨name, index, text, hSpells, hValue⟩
      obtain ⟨other, otherValue, hGet, hCanonical⟩ := spells_table_iff.mp hSpells
      obtain ⟨rfl, rfl⟩ := hValue.unique (hDenotes hGet hCanonical)
      exact hGet
    · intro hGet
      exact ⟨_, _, _, spells_table_iff.mpr ⟨slot, value, hGet, rfl, rfl, rfl⟩,
        hDenotes hGet ⟨rfl, rfl, rfl⟩⟩
  have hBanks : ∀ name bank, Std.ExtTreeMap.get? v.table name = some bank →
      ∃ algorithm, Algorithm.ofName name = .ok algorithm ∧ algorithm.isHash = true := by
    intro name bank hBank
    obtain ⟨slot, value, hGet, rfl⟩ := exists_of_get?_table hBank
    have hSize := h slot value hGet
    exact ⟨slot.bank, Algorithm.ofName_name _, Algorithm.isHash_iff_digestSize?.mpr ⟨_, hSize⟩⟩
  have hSpells : ∀ name index text, v.table.Spells name index text →
      ∃ slot value, PcrTable.Denotes name index text slot value := by
    intro name index text hSpells
    obtain ⟨slot, value, hGet, hCanonical⟩ := spells_table_iff.mp hSpells
    exact ⟨slot, value, hDenotes hGet hCanonical⟩
  have hUnique := fun slot value value' hv hv' => Option.some.inj
    (((hHolds slot value).mp hv).symm.trans ((hHolds slot value').mp hv'))
  obtain ⟨w, hValues, hGet⟩ := PcrTable.exists_values_eq_ok ⟨hBanks, hSpells⟩ hUnique
  obtain rfl : w = v := ext_get? fun slot value => (hGet slot value).trans (hHolds slot value)
  exact hValues

/-- **The values in a file that was written from them** are read back. -/
theorem ofText_file {v : PcrValues} (h : v.Sized) (tail : String)
    (hTail : tail = "" ∨ tail = "\n") : ofText (v.file ++ tail) = .ok v := by
  rw [ofText, file, PcrTable.ofText?_pretty _ _ hTail]
  exact values_table h

/-! ### Values of another size -/

/-- Values whose table is read have the **sizes** of their banks' digests. -/
theorem sized_of_values_eq_ok {v w : PcrValues} (h : PcrTable.values v.table = .ok w) :
    v.Sized := by
  have hReadable := PcrTable.exists_values_eq_ok_iff.mp ⟨w, h⟩
  intro slot value hGet
  obtain ⟨other, otherValue, hDenotes⟩ := hReadable.spellings _ _ _
    (spells_table_iff.mpr ⟨slot, value, hGet, rfl, rfl, rfl⟩)
  have hBank : slot.bank = other.bank :=
    Except.ok.inj ((Algorithm.ofName_name _).symm.trans hDenotes.bank)
  have hValue : value = otherValue :=
    Except.ok.inj ((Hex.decode_encode _).symm.trans hDenotes.decoded)
  rw [hBank, hValue]
  exact hDenotes.size

/-- The only fault of a table of values in hash banks is the **size** of one of them. -/
theorem exists_wrongSize_of_values_eq_error {v : PcrValues} {fault : PcrFileFault}
    (h : PcrTable.values v.table = .error fault)
    (hHash : ∀ slot value, v.get? slot = some value → slot.bank.isHash = true) :
    ∃ slot value size, v.get? slot = some value ∧ slot.bank.digestSize? = some size ∧
      value.length ≠ size ∧ fault = .wrongSize slot.bank.name slot.index value.length size := by
  rw [PcrTable.values, bind_eq_error_iff] at h
  obtain hBanks | ⟨lists, -, hDone⟩ := h
  · obtain ⟨⟨name, bank⟩, hMem, hRead⟩ := exists_of_mapM_eq_error hBanks
    have hBank := Std.ExtTreeMap.mem_toList_iff_getElem?_eq_some.mp hMem
    obtain ⟨slot, _, hGet, rfl⟩ := exists_of_get?_table hBank
    obtain ⟨size, hSize⟩ := Algorithm.isHash_iff_digestSize?.mp (hHash slot _ hGet)
    rw [PcrTable.readBank, Algorithm.ofName_name, mapError_ok] at hRead
    simp only [bind, Except.bind, hSize] at hRead
    obtain ⟨⟨index, text⟩, hMember, hEntry⟩ := exists_of_mapM_eq_error hRead
    -- The member is the canonical spelling of a value, perhaps in another slot of the bank.
    obtain ⟨other, value, hOther, hCanonical⟩ := spells_table_iff.mp
      ⟨bank, hBank, Std.ExtTreeMap.mem_toList_iff_getElem?_eq_some.mp hMember⟩
    have hSame : slot.bank = other.bank := Algorithm.name_inj hCanonical.1
    rw [hSame] at hSize hEntry hCanonical
    rw [hCanonical.readEntry_eq size] at hEntry
    split at hEntry
    · rename_i hLength
      exact ⟨other, value, size, hOther, hSize, hLength, (Except.error.inj hEntry).symm⟩
    · cases hEntry
  · cases hDone

/-- **Values of another size** cannot be read back: the fault is that of one of them. -/
theorem ofText_file_of_not_sized {v : PcrValues} (h : ¬ v.Sized)
    (hHash : ∀ slot value, v.get? slot = some value → slot.bank.isHash = true) (tail : String)
    (hTail : tail = "" ∨ tail = "\n") :
    ∃ slot value size, v.get? slot = some value ∧ slot.bank.digestSize? = some size ∧
      value.length ≠ size ∧ ofText (v.file ++ tail) =
        .error (.wrongSize slot.bank.name slot.index value.length size) := by
  rw [ofText, file, PcrTable.ofText?_pretty _ _ hTail]
  dsimp only
  cases hValues : PcrTable.values v.table with
  | ok w => exact absurd (sized_of_values_eq_ok hValues) h
  | error fault =>
      obtain ⟨slot, value, size, hGet, hSize, hLength, rfl⟩ :=
        exists_wrongSize_of_values_eq_error hValues hHash
      exact ⟨slot, value, size, hGet, hSize, hLength, rfl⟩

end PcrValues

end RemoteAttestation
