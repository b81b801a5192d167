import RemoteAttestation.Proofs.Device.Quoting
import RemoteAttestation.Proofs.Pcr.SelectionList
import RemoteAttestation.Proofs.Quote.Request
import RemoteAttestation.Proofs.Wire.Reading

/-!
# Quote Commands on the Wire

A TPM signs for the command that it receives, so two requests with one command would be signed
for each other. Every length in a command is written modulo the range of its field, and three
parts have no fixed length: the nonce, the scheme, which has a hash or none, and the list of
selections, whose bitmaps are as wide as their highest index needs. The parts of a request are
too small for any of this to matter. A nonce has at most `maxNonce` octets, the banks differ
and so are no more than the algorithms, and the widest bitmap, which reaches to index 255, has
32 octets (`QuoteRequest.layout_command`).

With its lengths intact, a command is read from the front in one way. A part that is **read**
as some value (`Reader.Reads`) is the same in any two equal commands (`Reader.Reads.unique`),
and what follows it is the same again. An entry of the list cannot be taken from
`SelectionList.read`, which refuses the selections that no bank can have while a request may
contain them, so entries are compared by their bitmaps (`SelectionList.writeEntry_append_inj`).

## Main results

* `QuoteRequest.layout_command`: the fields of a command, each length in full.
* `QuoteRequest.command_injective`: a command is that of one request.
* `QuoteCommand.reads_read`: a command is read back field by field.
* `QuoteRequest.command_lossless`: all of this for whatever is built.
-/

namespace RemoteAttestation

/-- A string behind its length, when the length fits. -/
theorem Wire.sized_eq {b : Bytes} (h : b.length < 2 ^ 16) :
    sized b = u16 (UInt16.ofNat b.length) ++ b := by
  rw [sized, u16, UInt16.toNat_ofNat_of_lt' h]

/-! ### Schemes -/

/-- Reads the identifier of an algorithm. -/
def Algorithm.read : Reader Unit Algorithm := do
  match Algorithm.ofId? (← Reader.u16.orFail fun _ => ()) with
  | some algorithm => return algorithm
  | none => throw ()

/-- Reads a scheme. Only the null scheme has no hash. -/
def Scheme.read : Reader Unit Scheme := do
  match ← Algorithm.read with
  | .null => return .null
  | .rsassa => return .rsassa (← Algorithm.read)
  | .rsapss => return .rsapss (← Algorithm.read)
  | .ecdsa => return .ecdsa (← Algorithm.read)
  | _ => throw ()

/-- An algorithm is read from its identifier. -/
theorem Algorithm.reads_read (a : Algorithm) : Reader.Reads read (Wire.u16 a.id) a := by
  have hId : Reader.Reads (Reader.u16.orFail fun _ => ()) (Wire.u16 a.id) a.id :=
    (Reader.accepts_u16.reads rfl).orFail _
  refine hId.bind_nil ?_
  rw [ofId?_id]
  exact Reader.reads_pure a

/-- **A written scheme is read back.** -/
theorem Scheme.reads_read (scheme : Scheme) : Reader.Reads read scheme.write scheme := by
  cases scheme with
  | null => exact (Algorithm.reads_read .null).bind_nil (Reader.reads_pure _)
  | rsassa hash | rsapss hash | ecdsa hash =>
      exact (Algorithm.reads_read _).bind
        ((Algorithm.reads_read hash).bind_nil (Reader.reads_pure _))

/-! ### Lists of selections -/

namespace Selection

/-- The layout of a **selection**: the identifier of its bank, the number of octets in its
bitmap, and the bitmap. -/
def Layout (s : Selection) (b : Bytes) : Prop :=
  ∃ width : UInt8, width.toNat = s.toBitmap.length ∧
    b = Wire.u16 s.bank.id ++ Wire.u8 width ++ s.toBitmap

/-- The entry that is written for a selection is laid out as one. -/
theorem layout_writeEntry (s : Selection) : s.Layout (SelectionList.writeEntry s) :=
  ⟨_, s.toNat_width, rfl⟩

end Selection

namespace SelectionList

variable {s s' : Selection} {selections selections' : List Selection} {rest rest' : Bytes}

/-- Equal data begin with the entry of **one** selection, whatever its bank and its indices
are. -/
theorem writeEntry_append_inj (h : writeEntry s ++ rest = writeEntry s' ++ rest') :
    s = s' ∧ rest = rest' := by
  simp only [writeEntry, List.append_assoc] at h
  obtain ⟨hBank, hBehindBank⟩ :=
    (Algorithm.reads_read s.bank).unique (Algorithm.reads_read s'.bank) h
  obtain ⟨hWidth, hBehindWidth⟩ := Reader.accepts_u8.unique rfl rfl hBehindBank
  have hLength : s.toBitmap.length = s'.toBitmap.length := by
    rw [← s.toNat_width, hWidth, s'.toNat_width]
  obtain ⟨hBitmap, hRest⟩ := List.append_inj hBehindWidth hLength
  refine ⟨?_, hRest⟩
  rw [← s.ofBitmap_toBitmap, hBank, hBitmap, s'.ofBitmap_toBitmap]

/-- Entries tell as many selections apart, since each of them has an end that can be seen. -/
theorem flatMap_writeEntry_inj (hLength : selections.length = selections'.length)
    (h : selections.flatMap writeEntry = selections'.flatMap writeEntry) :
    selections = selections' := by
  induction selections generalizing selections' with
  | nil => exact (List.length_eq_zero_iff.mp hLength.symm).symm
  | cons s others ih =>
      cases selections' with
      | nil => cases hLength
      | cons s' others' =>
          rw [List.flatMap_cons, List.flatMap_cons] at h
          obtain ⟨rfl, hOthers⟩ := writeEntry_append_inj h
          rw [ih (Nat.succ.inj hLength) hOthers]

/-- A list is **known** by what is written for it, if its length fits in four octets. -/
theorem write_inj (hLt : selections.length < 2 ^ 32) (hLt' : selections'.length < 2 ^ 32)
    (h : write selections = write selections') : selections = selections' := by
  rw [write, write, ← Wire.u32_ofNat hLt, ← Wire.u32_ofNat hLt'] at h
  obtain ⟨hCount, hEntries⟩ := Reader.accepts_u32.unique rfl rfl h
  have hLength := congrArg UInt32.toNat hCount
  rw [UInt32.toNat_ofNat_of_lt' hLt, UInt32.toNat_ofNat_of_lt' hLt'] at hLength
  exact flatMap_writeEntry_inj hLength hEntries

end SelectionList

/-! ### The layout of a command -/

/-- The parts of a request behind the header of its command. -/
def QuoteRequest.body (request : QuoteRequest) : Bytes :=
  Wire.u32 request.keyHandle ++ TpmCommand.emptyPassword ++ Wire.sized request.nonce ++
    request.scheme.write ++ SelectionList.write request.selections

namespace QuoteRequest

/-- A command is the frame of a quote around the body of the request. -/
theorem command_eq (request : QuoteRequest) :
    request.command = TpmCommand.frame TpmCommand.authorisedTag TpmCommand.quoteCode request.body :=
  rfl

/-- No nonce is longer than 64 octets. -/
theorem length_nonce_le (request : QuoteRequest) : request.nonce.length ≤ 64 :=
  request.nonce_size.2

/-- There are at most as many selections as banks. -/
theorem length_selections_le (request : QuoteRequest) : request.selections.length ≤ 11 := by
  have hBanks := Algorithm.length_le_of_nodup request.banks_nodup
  rwa [List.length_map] at hBanks

end QuoteRequest

/-- A scheme takes at most four octets. -/
theorem Scheme.length_write_le (scheme : Scheme) : scheme.write.length ≤ 4 := by
  cases scheme <;> simp [write]

/-- An entry takes three octets and a bitmap of at most 32. -/
theorem Selection.length_writeEntry_le (s : Selection) :
    (SelectionList.writeEntry s).length ≤ 35 := by
  have hLe := s.bitmapSize_le
  simp only [SelectionList.writeEntry, List.length_append, Wire.length_u16, Wire.u8,
    List.length_singleton, length_toBitmap]
  omega

/-- A list is as long as its entries and its count. -/
theorem SelectionList.length_write_le (selections : List Selection) :
    (write selections).length ≤ 4 + 35 * selections.length := by
  rw [write, List.length_append, Bytes.length_ofNat]
  refine Nat.add_le_add_left ?_ 4
  induction selections with
  | nil => exact Nat.le_refl 0
  | cons s rest ih =>
      have hEntry := s.length_writeEntry_le
      rw [List.flatMap_cons, List.length_append, List.length_cons]
      omega

namespace QuoteRequest

/-- The length of a command **fits in its field**. -/
theorem length_command_lt (request : QuoteRequest) :
    TpmCommand.headerSize + request.body.length < 2 ^ 32 := by
  have hNonce := request.length_nonce_le
  have hScheme := request.scheme.length_write_le
  have hSelections := request.length_selections_le
  have hList := SelectionList.length_write_le request.selections
  simp only [body, TpmCommand.headerSize, TpmCommand.emptyPassword, List.length_append,
    Wire.length_u32, Wire.length_u16, Wire.length_sized, Wire.u8, List.length_singleton]
  omega

/-- The authorisation by the empty password, behind its size: the session, no nonce, no
attributes and no password. -/
def passwordFields : Bytes :=
  Wire.u32 0x40000009 ++ Wire.u16 0 ++ Wire.u8 0 ++ Wire.u16 0

/-- The length of a command stands in its header **in full**. -/
theorem toNat_size (request : QuoteRequest) :
    (UInt32.ofNat request.command.length).toNat = request.command.length := by
  rw [command_eq, TpmCommand.length_frame]
  exact UInt32.toNat_ofNat_of_lt' request.length_command_lt

/-- The **fields** of a command, one after the other. -/
theorem command_fields (request : QuoteRequest) :
    request.command = Wire.u16 0x8002 ++ (Wire.u32 (UInt32.ofNat request.command.length) ++
      (Wire.u32 0x158 ++ (Wire.u32 request.keyHandle ++ (Wire.u32 9 ++ (passwordFields ++
        (Wire.sized request.nonce ++
          (request.scheme.write ++ SelectionList.write request.selections))))))) := by
  have hLength : request.command.length = TpmCommand.headerSize + request.body.length := by
    rw [command_eq, TpmCommand.length_frame]
  rw [hLength, Wire.u32_ofNat request.length_command_lt, command_eq, TpmCommand.frame]
  generalize Bytes.ofNat 4 (TpmCommand.headerSize + request.body.length) = size
  simp only [body, TpmCommand.emptyPassword, passwordFields, List.append_assoc]
  rfl

/-- The **layout** of a command for a quote: a tag, the number of octets in the whole, a code,
the key, the authorisation by the empty password, the nonce, the scheme and the selections.
Each length is that of what it counts, in full. -/
def Layout (keyHandle : UInt32) (nonce : Bytes) (selections : List Selection) (scheme : Scheme)
    (command : Bytes) : Prop :=
  ∃ (size authorisationSize count : UInt32) (nonceSize : UInt16) (entries : List Bytes),
    size.toNat = command.length ∧
    authorisationSize.toNat = passwordFields.length ∧ 4 + passwordFields.length = 13 ∧
    nonceSize.toNat = nonce.length ∧
    count.toNat = selections.length ∧ List.Forall₂ Selection.Layout selections entries ∧
    command = Wire.u16 0x8002 ++ Wire.u32 size ++ Wire.u32 0x158 ++ Wire.u32 keyHandle ++
      (Wire.u32 authorisationSize ++ passwordFields) ++ (Wire.u16 nonceSize ++ nonce) ++
      scheme.write ++ (Wire.u32 count ++ entries.flatten)

/-- **A command has the layout** of its request. -/
theorem layout_command (request : QuoteRequest) :
    Layout request.keyHandle request.nonce request.selections request.scheme request.command := by
  have hNonce : request.nonce.length < 2 ^ 16 :=
    Nat.lt_of_le_of_lt request.length_nonce_le (by decide)
  have hCount : request.selections.length < 2 ^ 32 :=
    Nat.lt_of_le_of_lt request.length_selections_le (by decide)
  refine ⟨UInt32.ofNat request.command.length, 9, UInt32.ofNat request.selections.length,
    UInt16.ofNat request.nonce.length, request.selections.map SelectionList.writeEntry,
    request.toNat_size, rfl, rfl, UInt16.toNat_ofNat_of_lt' hNonce,
    UInt32.toNat_ofNat_of_lt' hCount, ?_, ?_⟩
  · exact List.forall₂_map_right_iff.mpr (List.forall₂_same.mpr fun s _ => s.layout_writeEntry)
  · have hFields := request.command_fields
    rw [Wire.sized_eq hNonce, SelectionList.write, ← Wire.u32_ofNat hCount,
      List.flatMap_def] at hFields
    simpa only [List.append_assoc] using hFields

/-! ### One command, one request -/

/-- **A command is that of one request**: the same key, nonce, scheme and selections in the
same order. -/
theorem command_injective {request request' : QuoteRequest}
    (h : request.command = request'.command) : request = request' := by
  have hBody : request.body = request'.body := by
    rw [command_eq, command_eq, TpmCommand.frame, TpmCommand.frame] at h
    refine (List.append_inj h ?_).2
    simp only [List.length_append, Wire.length_u16, Wire.length_u32, Bytes.length_ofNat]
  simp only [body, List.append_assoc] at hBody
  obtain ⟨hKey, hBehindKey⟩ := Reader.accepts_u32.unique rfl rfl hBody
  have hBehindPassword := List.append_cancel_left hBehindKey
  have hLt : ∀ r : QuoteRequest, r.nonce.length < 65536 := fun r =>
    Nat.lt_of_le_of_lt r.length_nonce_le (by decide)
  obtain ⟨hNonce, hBehindNonce⟩ :=
    Reader.accepts_sized.unique ⟨rfl, hLt request⟩ ⟨rfl, hLt request'⟩ hBehindPassword
  obtain ⟨hScheme, hList⟩ :=
    request.scheme.reads_read.unique request'.scheme.reads_read hBehindNonce
  have hCount : ∀ r : QuoteRequest, r.selections.length < 2 ^ 32 := fun r =>
    Nat.lt_of_le_of_lt r.length_selections_le (by decide)
  have hSelections := SelectionList.write_inj (hCount request) (hCount request') hList
  cases request
  cases request'
  simp_all only

end QuoteRequest

/-! ### Reading a command back -/

/-- The fields of a **command** for a quote, in the order of the wire. -/
structure QuoteCommand where
  /-- The tag of the command. -/
  tag : UInt16
  /-- The stated number of octets in the command. -/
  size : UInt32
  /-- The code of the command. -/
  code : UInt32
  /-- The key that signs. -/
  keyHandle : UInt32
  /-- The authorisation, without its size. -/
  authorisation : Bytes
  /-- The nonce. -/
  nonce : Bytes
  /-- The scheme of the signature. -/
  scheme : Scheme
  /-- The selected PCRs. -/
  selections : List Selection
  deriving DecidableEq

namespace QuoteCommand

/-- Reads the fields of a **command**, one after the other. -/
def read : Reader Unit QuoteCommand := do
  let tag ← Reader.u16.orFail fun _ => ()
  let size ← Reader.u32.orFail fun _ => ()
  let code ← Reader.u32.orFail fun _ => ()
  let keyHandle ← Reader.u32.orFail fun _ => ()
  let authorisationSize ← Reader.u32.orFail fun _ => ()
  let authorisation ← (Reader.take authorisationSize.toNat).orFail fun _ => ()
  let nonce ← Reader.sized.orFail fun _ => ()
  let scheme ← Scheme.read
  let selections ← SelectionList.read.orFail fun _ => ()
  return { tag, size, code, keyHandle, authorisation, nonce, scheme, selections }

/-- The fields of the command of a request. -/
def ofRequest (request : QuoteRequest) : QuoteCommand where
  tag := 0x8002
  size := UInt32.ofNat request.command.length
  code := 0x158
  keyHandle := request.keyHandle
  authorisation := QuoteRequest.passwordFields
  nonce := request.nonce
  scheme := request.scheme
  selections := request.selections

/-- **A command is read back**, if some bank can have each of its selections. -/
theorem reads_read {request : QuoteRequest} (h : ∀ s ∈ request.selections, s.InBank) :
    Reader.Reads read request.command (ofRequest request) := by
  have hList : SelectionList.Form (SelectionList.write request.selections) request.selections :=
    SelectionList.form_write (Nat.le_trans request.length_selections_le (by decide)) h
  have hLt : request.nonce.length < 65536 :=
    Nat.lt_of_le_of_lt request.length_nonce_le (by decide)
  have hPassword : Reader.Reads (Reader.take 9) QuoteRequest.passwordFields
      QuoteRequest.passwordFields := (Reader.accepts_take 9).reads ⟨rfl, rfl⟩
  rw [request.command_fields]
  refine ((Reader.accepts_u16.reads rfl).orFail _).bind <|
    ((Reader.accepts_u32.reads rfl).orFail _).bind <|
    ((Reader.accepts_u32.reads rfl).orFail _).bind <|
    ((Reader.accepts_u32.reads rfl).orFail _).bind <|
    ((Reader.accepts_u32.reads rfl).orFail _).bind <|
    (hPassword.orFail _).bind <|
    ((Reader.accepts_sized.reads ⟨rfl, hLt⟩).orFail _).bind <|
    request.scheme.reads_read.bind <|
    ((SelectionList.accepts_read.reads hList).orFail _).bind_nil <|
    Reader.reads_pure _

end QuoteCommand

namespace QuoteRequest

/-- **A command loses nothing** of what a request is built of. It has the layout of the parts;
it is the command of no other parts; and if the selections are valid, reading it gives each
part back and leaves nothing. -/
theorem command_lossless {keyHandle : UInt32} {nonce : Bytes} {selections : List Selection}
    {scheme : Scheme} {request : QuoteRequest}
    (hBuild : build keyHandle nonce selections scheme = .ok request) :
    Layout keyHandle nonce selections scheme request.command ∧
    (∀ {keyHandle' : UInt32} {nonce' : Bytes} {selections' : List Selection} {scheme' : Scheme}
      {request' : QuoteRequest}, build keyHandle' nonce' selections' scheme' = .ok request' →
      request.command = request'.command →
      keyHandle = keyHandle' ∧ nonce = nonce' ∧ scheme = scheme' ∧ selections = selections') ∧
    ((∀ s ∈ selections, s.Valid) →
      ∃ size : UInt32, size.toNat = request.command.length ∧
        QuoteCommand.read (Cursor.start request.command) = .ok
          { tag := 0x8002, size, code := 0x158, keyHandle, authorisation := passwordFields,
            nonce, scheme, selections } ⟨[], request.command.length⟩) := by
  obtain ⟨rfl, rfl, rfl, rfl⟩ := build_eq_ok_iff.mp hBuild
  refine ⟨request.layout_command, ?_, fun hValid => ?_⟩
  · intro keyHandle' nonce' selections' scheme' request' hBuild' hCommand
    obtain ⟨rfl, rfl, rfl, rfl⟩ := build_eq_ok_iff.mp hBuild'
    rw [command_injective hCommand]
    exact ⟨rfl, rfl, rfl, rfl⟩
  · have hBanks : ∀ s ∈ request.selections, s.InBank := fun s hs =>
      (Selection.valid_iff.mp (hValid s hs)).1
    exact ⟨_, request.toNat_size, (QuoteCommand.reads_read hBanks).start⟩

/-- A request of two banks, signed with a hash. -/
theorem command_lossless_of_two_banks :
    ∃ request, build 0x81010001 [0xbe, 0xef] [.ofIndices .sha1 [0], .ofIndices .sha256 [7, 16]]
        (.ecdsa .sha256) = .ok request ∧
      ∃ size : UInt32, size.toNat = request.command.length ∧
        QuoteCommand.read (Cursor.start request.command) = .ok
          { tag := 0x8002, size, code := 0x158, keyHandle := 0x81010001
            authorisation := passwordFields, nonce := [0xbe, 0xef], scheme := .ecdsa .sha256
            selections := [.ofIndices .sha1 [0], .ofIndices .sha256 [7, 16]] }
          ⟨[], request.command.length⟩ := by
  have hSelections : ∀ s ∈ [Selection.ofIndices .sha1 [0], .ofIndices .sha256 [7, 16]],
      s.Valid := by
    simp only [List.forall_mem_cons]
    exact ⟨⟨.sha1, [0], rfl⟩, ⟨.sha256, [7, 16], rfl⟩, List.forall_mem_nil _⟩
  have hRequestable : Requestable [0xbe, 0xef]
      [Selection.ofIndices .sha1 [0], .ofIndices .sha256 [7, 16]] :=
    ⟨by decide, List.cons_ne_nil _ _, fun s hs => (Selection.valid_iff.mp (hSelections s hs)).2,
      by decide⟩
  obtain ⟨request, hBuild⟩ := exists_build_eq_ok_iff.mpr hRequestable
  exact ⟨request, hBuild, (command_lossless hBuild).2.2 hSelections⟩

end QuoteRequest

end RemoteAttestation
