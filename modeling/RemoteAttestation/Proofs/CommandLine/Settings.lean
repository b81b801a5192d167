import RemoteAttestation.Proofs.CommandLine.Flags
import RemoteAttestation.Proofs.CommandLine.Operand
import RemoteAttestation.Proofs.CommandLine.PcrList
import RemoteAttestation.Proofs.CommandLine.Surroundings

/-!
# Where Settings Come From

A setting has its value from one of three places: a flag, the settings file, or its default.
The file, or the defaults if no file is named, give the settings to start with, and a flag that
is given puts its value over one of them (`Flags.Overrides`). Of the flags only `--pcrs` may be
given several times to the same end, and the size of nonces has no flag.

What the flags write is said without the functions that read it (`WritesHandle`,
`PcrBank.Lists`, `WritesScheme`).

Wherever a scheme comes from, it is the null scheme or has a hash (`Scheme.Usable`). The
default is the null scheme, and a scheme that is written, in the file or in a flag, can be
used. In the file the scheme may stand anywhere, so the induction is over the places of a
record that are filled one after the other (`fillRecord_preserves`).

## Main results

* `Command.result_settings_eq_ok_iff`: the settings of a command.
* `Command.consults_settings`: what it takes to find them.
* `Settings.Configured.scheme_usable`: the scheme can be used.
-/

namespace RemoteAttestation

/-! ### Values from flags -/

/-- The value of a setting: what the last value of a flag **writes**, or the value that it has
without the flag. -/
def Flags.Overrides {α : Type} (flags : Flags) (flag : String) (writes : String → α → Prop)
    (base value : α) : Prop :=
  (∃ text, LastValue flags.pairs flag text ∧ writes text value) ∨
    (∀ p ∈ flags.pairs, p.1 ≠ flag) ∧ value = base

/-- A setting that is a text is what its flag says, or else what it was. -/
theorem Flags.overrides_text_iff {flags : Flags} {flag base value : String} :
    flags.Overrides flag (fun text value => value = text) base value ↔
      value = (flags.get? flag).getD base := by
  simp only [Overrides, ← get?_eq_none_iff, ← get?_eq_some_iff]
  cases flags.get? flag with
  | none => simp
  | some text => simp [eq_comm]

/-- Settings as the flags of a command leave them. -/
structure Settings.Overridden (s : Settings) (flags : Flags) (base : Settings) : Prop where
  /-- The device may be any. -/
  device : flags.Overrides "--device" (fun text device => device = text) base.device s.device
  /-- The handle is the one that its text writes. -/
  keyHandle : flags.Overrides "--handle" WritesHandle base.keyHandle s.keyHandle
  /-- Each value of the flag for PCRs lists a bank, and together they are the banks. -/
  pcrs : flags.all "--pcrs" ≠ [] ∧
      List.Forall₂ (fun text b => PcrBank.Lists text b.bank (b.indices.map UInt8.toNat))
        (flags.all "--pcrs") s.pcrs ∨
    flags.all "--pcrs" = [] ∧ s.pcrs = base.pcrs
  /-- The scheme is the one that its text writes. -/
  scheme : flags.Overrides "--scheme" WritesScheme base.scheme s.scheme
  /-- No flag is for the size of nonces. -/
  nonceSize : s.nonceSize = base.nonceSize

/-- The settings that a file holds. -/
def Settings.InFile (s : Settings) (fetch : String → Except FileFault Bytes) (path : String) :
    Prop :=
  ∃ b text, fetch path = .ok b ∧ b.toText? = some text ∧ ofText text = .ok s

/-- The settings that flags and files **configure**. -/
def Settings.Configured (s : Settings) (fetch : String → Except FileFault Bytes) (flags : Flags) :
    Prop :=
  ∃ base, flags.Overrides "--config" (fun path base => base.InFile fetch path) {} base ∧
    s.Overridden flags base

/-! ### Reading settings -/

namespace Command

variable {σ α ε : Type} {E : Surroundings σ} {state : σ} {flags : Flags}

/-- To read settings only their file is looked at. -/
theorem consults_settingsFile (path : String) : (settingsFile path).Consults E :=
  (consults_readText _ _).bind fun _ => consults_ofExcept _ _

/-- The settings that are read are those that the file holds. -/
theorem result_settingsFile_eq_ok_iff {path : String} {s : Settings} :
    ((settingsFile path).episode E state).result = .ok s ↔ s.InFile (E.fetch state) path := by
  rw [settingsFile, (consults_readText _ _).result_bind_eq_ok_iff]
  simp only [result_readText_eq_ok_iff, episode_ofExcept, mapError_eq_ok_iff, Settings.InFile]
  constructor
  · rintro ⟨text, ⟨b, hFetch, hText⟩, hSettings⟩
    exact ⟨b, text, hFetch, hText, hSettings⟩
  · rintro ⟨b, text, hFetch, hText, hSettings⟩
    exact ⟨text, ⟨b, hFetch, hText⟩, hSettings⟩

/-- The value of a setting that a flag may override, in a command. -/
def overridden (flags : Flags) (flag : String) (read : String → Command α) (base : α) :
    Command α :=
  match flags.get? flag with
  | some text => read text
  | none => pure base

/-- If the reading of a flag's value only consults files, so does the choice between flag and
base. -/
theorem consults_overridden {flag : String} {read : String → Command α} {base : α}
    (h : ∀ text, (read text).Consults E) : (overridden flags flag read base).Consults E := by
  rw [overridden]
  cases flags.get? flag with
  | none => exact consults_pure base
  | some text => exact h text

/-- A setting is what its flag **writes**, or else what it was, if the flag's value is read as
what it writes. -/
theorem result_overridden_eq_ok_iff {flag : String} {read : String → Command α}
    {writes : String → α → Prop} {base value : α}
    (h : ∀ text, ((read text).episode E state).result = .ok value ↔ writes text value) :
    ((overridden flags flag read base).episode E state).result = .ok value ↔
      flags.Overrides flag writes base value := by
  rw [overridden, Flags.Overrides, ← Flags.get?_eq_none_iff]
  simp only [← Flags.get?_eq_some_iff]
  cases flags.get? flag with
  | none => simp [eq_comm]
  | some text => simp [h]

/-- The same where the value of the flag is read without a look at any file. -/
theorem result_overridden_ofExcept_eq_ok_iff {flag : String} {read : String → Except ε α}
    {fault : ε → CommandFault} {base value : α} :
    ((overridden flags flag (fun text => ofExcept fault (read text)) base).episode E state).result =
        .ok value ↔
      flags.Overrides flag (fun text value => read text = .ok value) base value :=
  result_overridden_eq_ok_iff fun text => by rw [episode_ofExcept, mapError_eq_ok_iff]

/-- The banks of a command. -/
def banks (flags : Flags) (base : List PcrBank) : Command (List PcrBank) :=
  match flags.all "--pcrs" with
  | [] => pure base
  | texts => ofExcept .pcrs (texts.mapM PcrBank.parse)

/-- The banks come from the flags or the base alone. -/
theorem consults_banks (base : List PcrBank) : (banks flags base).Consults E := by
  rw [banks]
  cases flags.all "--pcrs" with
  | nil => exact consults_pure base
  | cons text texts => exact consults_ofExcept _ _

/-- The banks are **all** that the flags for PCRs list, or those of the base if there is no
such flag. -/
theorem result_banks_eq_ok_iff {base pcrs : List PcrBank} :
    ((banks flags base).episode E state).result = .ok pcrs ↔
      flags.all "--pcrs" ≠ [] ∧
          List.Forall₂ (fun text b => PcrBank.Lists text b.bank (b.indices.map UInt8.toNat))
            (flags.all "--pcrs") pcrs ∨
        flags.all "--pcrs" = [] ∧ pcrs = base := by
  rw [banks]
  simp only [← PcrBank.parse_eq_ok_iff]
  cases flags.all "--pcrs" with
  | nil => simp [eq_comm]
  | cons text texts =>
      simp only [episode_ofExcept, mapError_eq_ok_iff, mapM_eq_ok_iff, ne_eq, reduceCtorEq,
        not_false_eq_true, true_and, false_and, or_false]

/-- Settings that the operator is told of. -/
def announced (s : Settings) : Command Settings := do
  tell [s.notice]
  return s

/-- To tell the operator of settings changes nothing. -/
@[simp] theorem episode_announced (s : Settings) (state : σ) :
    (announced s).episode E state = ⟨.ok s, [], state⟩ := by
  simp only [announced, episode_bind, episode_tell, episode_pure, Episode.after_nil]

/-- To tell the operator of settings is not to turn to the device. -/
theorem consults_announced (s : Settings) : (announced s).Consults E :=
  (consults_tell _).bind fun _ => consults_pure s

/-- The settings of a command, **one setting after the other**. -/
theorem settings_eq (flags : Flags) :
    settings flags = (do
      let base ← overridden flags "--config" settingsFile {}
      let keyHandle ← overridden flags "--handle" (fun text => ofExcept .handle (parseHandle text))
        base.keyHandle
      let pcrs ← banks flags base.pcrs
      let scheme ← overridden flags "--scheme" (fun text => ofExcept .scheme (Scheme.parse text))
        base.scheme
      announced { device := (flags.get? "--device").getD base.device, keyHandle, pcrs, scheme,
                  nonceSize := base.nonceSize }) := by
  rw [settings]
  simp only [overridden, banks, announced]
  cases flags.get? "--config" <;> cases flags.get? "--handle" <;> cases flags.all "--pcrs" <;>
    cases flags.get? "--scheme" <;> rfl

/-- To find the settings only files are read. -/
theorem consults_settings (flags : Flags) : (settings flags).Consults E := by
  rw [settings_eq]
  exact (consults_overridden consults_settingsFile).bind fun base =>
    (consults_overridden fun text => consults_ofExcept _ _).bind fun keyHandle =>
    (consults_banks base.pcrs).bind fun pcrs =>
    (consults_overridden fun text => consults_ofExcept _ _).bind fun scheme =>
    consults_announced _

/-- **The settings of a command** are those that its flags and files configure. -/
theorem result_settings_eq_ok_iff {s : Settings} :
    ((settings flags).episode E state).result = .ok s ↔ s.Configured (E.fetch state) flags := by
  rw [settings_eq, (consults_overridden consults_settingsFile).result_bind_eq_ok_iff]
  refine exists_congr fun base => and_congr
    (result_overridden_eq_ok_iff fun path => result_settingsFile_eq_ok_iff) ?_
  simp only [(consults_overridden fun text => consults_ofExcept _ _).result_bind_eq_ok_iff,
    (consults_banks base.pcrs).result_bind_eq_ok_iff, result_overridden_ofExcept_eq_ok_iff,
    result_banks_eq_ok_iff, parseHandle_eq_ok_iff, Scheme.parse_eq_ok_iff,
    episode_announced, Except.ok.injEq]
  constructor
  · rintro ⟨keyHandle, hHandle, pcrs, hBanks, scheme, hScheme, rfl⟩
    exact ⟨Flags.overrides_text_iff.mpr rfl, hHandle, hBanks, hScheme, rfl⟩
  · rintro ⟨hDevice, hHandle, hBanks, hScheme, hSize⟩
    refine ⟨s.keyHandle, hHandle, s.pcrs, hBanks, s.scheme, hScheme, ?_⟩
    rw [← Flags.overrides_text_iff.mp hDevice, ← hSize]

end Command

/-! ### Schemes -/

/-- The hash of a scheme, if it has one. -/
def Scheme.hash? : Scheme → Option Algorithm
  | null => none
  | rsassa hash | rsapss hash | ecdsa hash => some hash

/-- A scheme that can be **used**: the null scheme, or one with a hash that is one. -/
def Scheme.Usable (scheme : Scheme) : Prop :=
  scheme = .null ∨ ∃ hash, scheme.hash? = some hash ∧ hash.isHash = true

/-- A scheme that is **written** can be used. -/
theorem WritesScheme.usable {text : String} {scheme : Scheme} (h : WritesScheme text scheme) :
    scheme.Usable := by
  obtain ⟨word, algorithm, hash, -, -, -, hHash, hMade⟩ := h
  have hIsHash := Algorithm.isHash_iff_mem.mpr hHash
  cases hMade
  case null => exact .inl rfl
  all_goals exact .inr ⟨hash, rfl, hIsHash⟩

namespace Settings

variable {ρ : Type} {names : List String} {set : ρ → String → JsonSource → Except SettingsFault ρ}
  {P : ρ → Prop}

/-- What filling a place preserves, **filling a record** preserves. -/
theorem fillRecord_preserves
    (hSet : ∀ {record filled : ρ} {name : String} {value : JsonSource}, P record →
      set record name value = .ok filled → P filled)
    {start filled : ρ} {source : JsonSource} (hStart : P start)
    (h : fillRecord names set start source = .ok filled) : P filled := by
  have hEnd : ∀ {p : Prop} [Decidable p] {record : ρ}, P record →
      (if p then pure record else throw .malformed : Except SettingsFault ρ) = .ok filled →
      P filled := by
    intro p _ record hRecord h
    split at h
    · exact Except.ok.inj h ▸ hRecord
    · cases h
  rw [fillRecord.eq_def] at h
  split at h
  · obtain ⟨record, hFold, h⟩ := bind_eq_ok_iff.mp h
    refine hEnd (of_foldlM_eq_ok ?_ hStart hFold) h
    rintro before after ⟨name, value⟩ hBefore hStep
    obtain ⟨known, -, hStep⟩ := bind_eq_ok_iff.mp hStep
    exact hSet hBefore hStep
  · obtain ⟨record, hFold, h⟩ := bind_eq_ok_iff.mp h
    exact hEnd (of_foldlM_eq_ok hSet hStart hFold) h
  · cases h

/-- A place that is filled holds the value that was read for it. -/
theorem eq_put_of_fillPlace {α : Type} {place : Option α} {value : Except SettingsFault α}
    {put : α → ρ} {filled : ρ} (h : fillPlace place value put = .ok filled) :
    ∃ a, value = .ok a ∧ filled = put a := by
  rw [fillPlace] at h
  split at h
  · cases h
  · obtain ⟨a, hValue, rfl⟩ := map_eq_ok_iff.mp h
    exact ⟨a, hValue, rfl⟩

/-- A draft whose scheme, if it has one, can be used. -/
def DraftUsable (draft : SettingsDraft) : Prop :=
  ∀ scheme, draft.scheme = some scheme → scheme.Usable

/-- A named value is put into a draft **without harm to the scheme**: only one name is for the
scheme, and its value is read as a scheme that can be used. -/
theorem draftUsable_set {draft filled : SettingsDraft} {name : String} {value : JsonSource}
    (hDraft : DraftUsable draft) (h : draft.set name value = .ok filled) : DraftUsable filled := by
  rw [SettingsDraft.set.eq_def] at h
  split at h
  case h_4 =>
    obtain ⟨scheme, hValue, rfl⟩ := eq_put_of_fillPlace h
    obtain ⟨text, -, hParse⟩ := bind_eq_ok_iff.mp hValue
    rintro _ ⟨rfl⟩
    exact (Scheme.parse_eq_ok_iff.mp (mapError_eq_ok_iff.mp hParse)).usable
  case h_6 => cases h
  all_goals
    obtain ⟨_, -, rfl⟩ := eq_put_of_fillPlace h
    exact hDraft

/-- The scheme in a file can be used. -/
theorem scheme_usable_of_ofText {text : String} {s : Settings} (h : ofText text = .ok s) :
    s.scheme.Usable := by
  obtain ⟨draft, hDraft, h⟩ := bind_eq_ok_iff.mp h
  have hUsable : DraftUsable draft := fillRecord_preserves draftUsable_set (by nofun) hDraft
  split at h
  · obtain rfl := Except.ok.inj h
    rw [SettingsDraft.settings]
    cases hScheme : draft.scheme with
    | none => exact .inl rfl
    | some scheme => exact hUsable scheme hScheme
  · cases h

/-- **Wherever a scheme comes from**, it can be used. -/
theorem Configured.scheme_usable {s : Settings} {fetch : String → Except FileFault Bytes}
    {flags : Flags} (h : s.Configured fetch flags) : s.scheme.Usable := by
  obtain ⟨base, hBase, hOverridden⟩ := h
  have hUsable : base.scheme.Usable := by
    rcases hBase with ⟨path, -, b, text, -, -, hText⟩ | ⟨-, rfl⟩
    · exact scheme_usable_of_ofText hText
    · exact .inl rfl
  rcases hOverridden.scheme with ⟨text, -, hWrites⟩ | ⟨-, hEq⟩
  · exact hWrites.usable
  · exact hEq ▸ hUsable

end Settings

end RemoteAttestation
