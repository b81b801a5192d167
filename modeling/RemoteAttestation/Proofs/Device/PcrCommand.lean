import RemoteAttestation.Device.PcrReading
import RemoteAttestation.Proofs.Device.Quoting
import RemoteAttestation.Proofs.Pcr.BitmapForm

/-!
# The Command that Reads PCRs

A TPM knows what it is asked for by the octets that it gets, so they are described here without
the functions that write them: a header with the length of the whole, and a list of one entry,
whose bitmap has a bit for each index (`Selection.ShownBy`). A command of this form **asks
for** a selection (`Selection.AskedBy`).

A selection is asked for by one command, which is the one that a session sends, and a command
asks for one selection. So what a record of commands asks for can be told from the commands.

## Main results

* `Selection.askedBy_iff`: the command that asks for a selection.
* `Selection.AskedBy.unique`: a command asks for one selection.
-/

namespace RemoteAttestation

namespace Selection

/-- A bitmap **shows** a selection. Bit `n` of octet `b` stands for index `8 * b + n`, and
there are as many octets as the highest index needs, but not less than three. -/
structure ShownBy (s : Selection) (bitmap : Bytes) : Prop where
  /-- The width of the bitmap. -/
  length_eq : bitmap.length = max 3 (s.highest / 8 + 1)
  /-- An index is selected when its bit is set. -/
  mem_iff : ∀ index, index ∈ s.indices ↔ bitmap.HasBit (index.toNat / 8) (index.toNat % 8)

/-- A command **asks for** a selection: a tag, the number of octets in the whole, a code, and a
list of one entry, which holds the bank, the number of octets in the bitmap, and the bitmap.
Each length is that of what it counts, in full. -/
def AskedBy (s : Selection) (command : Bytes) : Prop :=
  ∃ (size : UInt32) (width : UInt8) (bitmap : Bytes),
    size.toNat = command.length ∧ width.toNat = bitmap.length ∧ s.ShownBy bitmap ∧
      command = Wire.u16 0x8001 ++ Wire.u32 size ++ Wire.u32 0x17e ++
        (Wire.u32 1 ++ (Wire.u16 s.bank.id ++ Wire.u8 width ++ bitmap))

variable {s s' : Selection} {bitmap command : Bytes}

/-! ### Bitmaps that show a selection -/

/-- The bitmap that is written shows the selection. -/
theorem shownBy_toBitmap (s : Selection) : s.ShownBy s.toBitmap where
  length_eq := s.length_toBitmap.trans s.bitmapSize_eq_highest
  mem_iff index := by
    have hWidth : s.toBitmap.length ≤ 32 := s.length_toBitmap ▸ s.bitmapSize_le
    rw [← mem_ofBitmap_iff_hasBit_div hWidth, ofBitmap_toBitmap]

/-- A selection is shown by **one** bitmap. -/
theorem ShownBy.eq_toBitmap (h : s.ShownBy bitmap) : bitmap = s.toBitmap := by
  have hLength : bitmap.length = s.toBitmap.length :=
    h.length_eq.trans s.shownBy_toBitmap.length_eq.symm
  have hWidth : bitmap.length ≤ 32 := by
    rw [hLength, length_toBitmap]
    exact s.bitmapSize_le
  -- A bitmap of at most 32 octets has no bit that is not that of an index.
  have hSame : ofBitmap s.bank bitmap = s :=
    ext_mem rfl fun index => (mem_ofBitmap_iff_hasBit_div hWidth).trans (h.mem_iff index).symm
  refine (Bytes.paddedAlike_of_hasBit_iff fun b n => ?_).eq_of_length_eq hLength
  have hBits : (ofBitmap s.bank bitmap).toBitmap.HasBit b n ↔ bitmap.HasBit b n :=
    hasBit_toBitmap_ofBitmap_iff hWidth
  rw [← hBits, hSame]

/-- A bitmap shows **one** set of indices. -/
theorem ShownBy.mem_iff_mem (h : s.ShownBy bitmap) (h' : s'.ShownBy bitmap) (index : UInt8) :
    index ∈ s.indices ↔ index ∈ s'.indices :=
  (h.mem_iff index).trans (h'.mem_iff index).symm

/-! ### Commands that ask for a selection -/

/-- The list in a command has one entry. -/
theorem write_singleton (s : Selection) :
    SelectionList.write [s] = Wire.u32 1 ++ SelectionList.writeEntry s := by
  rw [SelectionList.write, List.flatMap_singleton]
  rfl

/-- A command has ten octets of header, seven of the list, and the bitmap. -/
theorem length_readCommand (s : Selection) : s.readCommand.length = 17 + s.bitmapSize := by
  rw [readCommand, TpmCommand.length_frame, write_singleton]
  simp only [SelectionList.writeEntry, TpmCommand.headerSize, List.length_append, Wire.length_u32,
    Wire.length_u16, Wire.u8, List.length_singleton, length_toBitmap]
  omega

/-- The length of a command **fits in its field**. -/
theorem length_readCommand_lt (s : Selection) : s.readCommand.length < 2 ^ 32 := by
  have hWidth := s.bitmapSize_le
  rw [length_readCommand]
  omega

/-- The **octets** of the command that a session sends for a selection. -/
theorem readCommand_eq (s : Selection) :
    s.readCommand = Wire.u16 0x8001 ++ Wire.u32 (UInt32.ofNat s.readCommand.length) ++
      Wire.u32 0x17e ++ (Wire.u32 1 ++
        (Wire.u16 s.bank.id ++ Wire.u8 (UInt8.ofNat s.toBitmap.length) ++ s.toBitmap)) := by
  rw [Wire.u32_ofNat s.length_readCommand_lt, readCommand, TpmCommand.length_frame,
    TpmCommand.frame, write_singleton]
  rfl

/-- The command that a session sends asks for the selection. -/
theorem askedBy_readCommand (s : Selection) : s.AskedBy s.readCommand :=
  ⟨UInt32.ofNat s.readCommand.length, UInt8.ofNat s.toBitmap.length, s.toBitmap,
    UInt32.toNat_ofNat_of_lt' s.length_readCommand_lt, s.toNat_width, s.shownBy_toBitmap,
    s.readCommand_eq⟩

/-- The length of a command that asks for a selection is set by the selection. -/
theorem AskedBy.length_eq (h : s.AskedBy command) :
    command.length = 17 + max 3 (s.highest / 8 + 1) := by
  obtain ⟨size, width, bitmap, -, -, hShown, rfl⟩ := h
  simp only [List.length_append, Wire.length_u32, Wire.length_u16, Wire.u8, List.length_singleton,
    hShown.length_eq]
  omega

/-- **The command that asks for a selection** is the one that a session sends. -/
theorem askedBy_iff : s.AskedBy command ↔ command = s.readCommand := by
  constructor
  · intro h
    have hLength := h.length_eq.trans s.askedBy_readCommand.length_eq.symm
    obtain ⟨size, width, bitmap, hSize, hWidth, hShown, hCommand⟩ := h
    obtain rfl := hShown.eq_toBitmap
    rw [hCommand, s.readCommand_eq, ← hLength, ← hSize, ← hWidth, UInt32.ofNat_toNat,
      UInt8.ofNat_toNat]
  · rintro rfl
    exact s.askedBy_readCommand

/-- **A command asks for one selection.** -/
theorem AskedBy.unique (h : s.AskedBy command) (h' : s'.AskedBy command) : s = s' := by
  obtain ⟨size, width, bitmap, -, -, hShown, rfl⟩ := h
  obtain ⟨size', width', bitmap', -, -, hShown', hCommand⟩ := h'
  simp only [List.append_assoc] at hCommand
  obtain ⟨-, hBehindSize⟩ := Reader.accepts_u32.unique rfl rfl (List.append_cancel_left hCommand)
  have hEntry := List.append_cancel_left (List.append_cancel_left hBehindSize)
  obtain ⟨hId, hBehindBank⟩ := Reader.accepts_u16.unique rfl rfl hEntry
  obtain ⟨-, rfl⟩ := Reader.accepts_u8.unique rfl rfl hBehindBank
  exact ext_mem (Slot.bank_eq_of_id_eq hId) (hShown.mem_iff_mem hShown')

end Selection

end RemoteAttestation
