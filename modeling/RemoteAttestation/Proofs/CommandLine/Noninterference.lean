import RemoteAttestation.Proofs.Bytes.Text
import RemoteAttestation.Proofs.CommandLine.QuoteFile
import RemoteAttestation.Proofs.CommandLine.Verification
import RemoteAttestation.Proofs.HonestRun

/-!
# What the Attester Says About Itself

A quote file holds more than the evidence: the attester records the nonce that it was asked
with, and a reading of its attestation. None of that may influence a verification. Two runs are
compared in two surroundings whose files differ in the quote file alone, and there in
everything but the attestation and the signature. Such runs go through the same steps with
related values: `Command.Alike` relates commands that end with related results or with the same
fault, and it is kept when commands are put one after the other.

What the operator is told for debugging is not part of the outcome, and may differ: it names
the recorded nonce.

## Main results

* `Command.Alike.bind`: alike commands one after the other.
* `Command.alike_verify`: the command, with files that hold the same evidence.
* `run_verify_noninterference`: the two runs have the same exit status, output and complaint.
-/

namespace RemoteAttestation

variable {σ σ' : Type} {E : Surroundings σ} {E' : Surroundings σ'} {state : σ} {state' : σ'}

namespace Command

variable {α α' β β' : Type}

/-- Two results are **alike** when they are related values or the same fault. -/
def AlikeResults (R : α → α' → Prop) :
    Except CommandFault α → Except CommandFault α' → Prop
  | .ok a, .ok a' => R a a'
  | .error fault, .error fault' => fault = fault'
  | _, _ => False

/-- Results that are alike with equal values are the same. -/
theorem AlikeResults.eq {r r' : Except CommandFault α} (h : AlikeResults Eq r r') : r = r' := by
  cases r with
  | ok a =>
      cases r' with
      | ok a' => exact congrArg Except.ok h
      | error fault' => exact h.elim
  | error fault =>
      cases r' with
      | ok a' => exact h.elim
      | error fault' => exact congrArg Except.error h

/-- Two commands are **alike** in their surroundings when their results are, and they leave
these as they were. -/
structure Alike (R : α → α' → Prop) (E : Surroundings σ) (state : σ) (E' : Surroundings σ')
    (state' : σ') (c : Command α) (c' : Command α') : Prop where
  /-- The results are alike. -/
  results : AlikeResults R (c.episode E state).result (c'.episode E' state').result
  /-- The first command leaves its surroundings. -/
  keeps : (c.episode E state).state = state
  /-- The second command leaves its surroundings. -/
  keeps' : (c'.episode E' state').state = state'

/-- Commands that only consult files are alike when their **results** are. -/
theorem Consults.alike {R : α → α' → Prop} {c : Command α} {c' : Command α'} (h : c.Consults E)
    (h' : c'.Consults E')
    (hResults : AlikeResults R (c.episode E state).result (c'.episode E' state').result) :
    Alike R E state E' state' c c' :=
  ⟨hResults, (h state).2, (h' state').2⟩

/-- Commands that are alike one after the other, the second ones for all related values. -/
theorem Alike.bind {R : α → α' → Prop} {S : β → β' → Prop} {c : Command α} {c' : Command α'}
    {f : α → Command β} {f' : α' → Command β'} (h : Alike R E state E' state' c c')
    (hNext : ∀ a a', R a a' → Alike S E state E' state' (f a) (f' a')) :
    Alike S E state E' state' (c >>= f) (c' >>= f') := by
  obtain ⟨hResults, hKeeps, hKeeps'⟩ := h
  cases hResult : (c.episode E state).result with
  | ok a =>
      cases hResult' : (c'.episode E' state').result with
      | ok a' =>
          rw [hResult, hResult'] at hResults
          obtain ⟨hNextResults, hNextKeeps, hNextKeeps'⟩ := hNext a a' hResults
          constructor <;> simp only [episode_bind, hResult, hResult', hKeeps, hKeeps'] <;>
            assumption
      | error fault' =>
          rw [hResult, hResult'] at hResults
          exact hResults.elim
  | error fault =>
      cases hResult' : (c'.episode E' state').result with
      | ok a' =>
          rw [hResult, hResult'] at hResults
          exact hResults.elim
      | error fault' =>
          rw [hResult, hResult'] at hResults
          constructor <;> simp only [episode_bind, hResult, hResult', hKeeps, hKeeps']
          exact hResults

/-- The same known result, in any two surroundings, before commands that are alike for its
value. -/
theorem alike_ofExcept_bind {ε : Type} {S : β → β' → Prop} {fault : ε → CommandFault}
    {result : Except ε α} {f : α → Command β} {f' : α → Command β'}
    (hNext : ∀ a, result = .ok a → Alike S E state E' state' (f a) (f' a)) :
    Alike S E state E' state' (ofExcept fault result >>= f) (ofExcept fault result >>= f') := by
  cases result with
  | ok a => exact hNext a rfl
  | error e => exact ⟨rfl, rfl, rfl⟩

/-- Any two things that the operator is told. -/
theorem alike_tell (notices notices' : List Notice) :
    Alike (fun _ _ => True) E state E' state' (tell notices) (tell notices') :=
  (consults_tell notices).alike (consults_tell notices') (by
    rw [episode_tell, episode_tell]
    trivial)

/-- A file that is the same on both sides. -/
theorem alike_readBytes {role : FileRole} {path : String}
    (h : E.fetch state path = E'.fetch state' path) :
    Alike Eq E state E' state' (readBytes role path) (readBytes role path) := by
  refine (consults_readBytes role path).alike (consults_readBytes role path) ?_
  rw [episode_readBytes, episode_readBytes, h]
  cases E'.fetch state' path <;> rfl

/-- The text of a file that is the same on both sides. -/
theorem alike_readText {role : FileRole} {path : String}
    (h : E.fetch state path = E'.fetch state' path) :
    Alike Eq E state E' state' (readText role path) (readText role path) := by
  refine (alike_readBytes h).bind fun b b' hEq => ?_
  subst hEq
  cases b.toText? <;> exact ⟨rfl, rfl, rfl⟩

/-- Two texts of a file. -/
theorem alike_readText_of_hasText {role : FileRole} {path text text' : String}
    (h : HasText (E.fetch state) path text) (h' : HasText (E'.fetch state') path text') :
    Alike (fun a a' => a = text ∧ a' = text') E state E' state' (readText role path)
      (readText role path) := by
  refine (consults_readText role path).alike (consults_readText role path) ?_
  rw [result_readText_eq_ok_iff.mpr h, result_readText_eq_ok_iff.mpr h']
  exact ⟨rfl, rfl⟩

end Command

/-! ### Two quote files -/

/-- Two quote files at a path have the **same evidence**: both are in the form of such files,
with the same texts for the attestation and the signature. -/
def SameQuote (fetch fetch' : String → Except FileFault Bytes) (path : String) : Prop :=
  ∃ text text' file file', HasText fetch path text ∧ HasText fetch' path text' ∧
    QuoteFile.ofText? text = some file ∧ QuoteFile.ofText? text' = some file' ∧
    file.attest = file'.attest ∧ file.signature = file'.signature

/-- A flag of the command has a value in its arguments. -/
def VerifyFlag (arguments : List String) (flag value : String) : Prop :=
  ∃ pairs, arguments = Flags.written pairs ∧
    (∀ p ∈ pairs, p.1 ∈ ["--quote", "--ak", "--pcr-values", "--nonce"]) ∧
    Flags.LastValue pairs flag value

/-- The value of a flag is the one that the command requires. -/
theorem verifyFlag_iff {arguments : List String} {flag value : String} :
    VerifyFlag arguments flag value ↔
      ∃ flags, Flags.parse Command.verifyFlags arguments = .ok flags ∧
        flags.require flag = .ok value := by
  simp only [VerifyFlag, Flags.parse_eq_ok_iff, Flags.require_eq_ok_iff, and_assoc]
  constructor
  · rintro ⟨pairs, h⟩
    exact ⟨⟨pairs⟩, h⟩
  · rintro ⟨flags, h⟩
    exact ⟨flags.pairs, h⟩

/-- Files hold the **same evidence** for some arguments: the same key and the same expected
values, and quote files with the same evidence. -/
structure SameEvidence (arguments : List String) (fetch fetch' : String → Except FileFault Bytes) :
    Prop where
  /-- The quote files agree on the attestation and the signature. -/
  quote : ∀ path, VerifyFlag arguments "--quote" path → SameQuote fetch fetch' path
  /-- The key files are the same. -/
  key : ∀ path, VerifyFlag arguments "--ak" path → fetch path = fetch' path
  /-- The files of expected values are the same. -/
  expected : ∀ path, VerifyFlag arguments "--pcr-values" path → fetch path = fetch' path

namespace Command

/-- The command is alike where files hold the same evidence: its steps are, one by one, and
what differs between the quote files reaches the notices only. -/
theorem alike_verify {arguments : List String} {flags : Flags}
    (h : SameEvidence arguments (E.fetch state) (E'.fetch state'))
    (hFlags : Flags.parse verifyFlags arguments = .ok flags) :
    Alike Eq E state E' state' (verify flags) (verify flags) := by
  have hValue : ∀ {flag value}, flags.require flag = .ok value →
      VerifyFlag arguments flag value := fun hRequire =>
    verifyFlag_iff.mpr ⟨flags, hFlags, hRequire⟩
  rw [verify]
  refine alike_ofExcept_bind fun quotePath hQuotePath => ?_
  refine alike_ofExcept_bind fun keyPath hKeyPath => ?_
  refine alike_ofExcept_bind fun pcrPath hPcrPath => ?_
  refine alike_ofExcept_bind fun nonceText _ => ?_
  obtain ⟨text, text', file, file', hText, hText', hFile, hFile', hAttest, hSignature⟩ :=
    h.quote quotePath (hValue hQuotePath)
  refine (alike_readText_of_hasText hText hText').bind ?_
  rintro _ _ ⟨rfl, rfl⟩
  simp only [hFile, hFile', ← hAttest, ← hSignature]
  refine (alike_readBytes (h.key keyPath (hValue hKeyPath))).bind ?_
  rintro b _ rfl
  refine alike_ofExcept_bind fun key _ => ?_
  refine (alike_readText (h.expected pcrPath (hValue hPcrPath))).bind ?_
  rintro pcrText _ rfl
  refine alike_ofExcept_bind fun expected _ => ?_
  refine alike_ofExcept_bind fun nonce _ => ?_
  refine (alike_tell _ _).bind fun _ _ _ => ?_
  refine alike_ofExcept_bind fun raw _ => ?_
  refine alike_ofExcept_bind fun rawSignature _ => ?_
  refine (alike_tell _ _).bind fun _ _ _ => ?_
  refine alike_ofExcept_bind fun verdict _ => ?_
  exact ⟨rfl, rfl, rfl⟩

end Command

/-- The outcome of the program is the same where files hold the same evidence. -/
theorem verifyOutcome_congr {arguments : List String}
    (h : SameEvidence arguments (E.fetch state) (E'.fetch state')) :
    verifyOutcome E state arguments = verifyOutcome E' state' arguments := by
  have hAlike : Command.Alike Eq E state E' state' (Command.ofArguments ("verify" :: arguments))
      (Command.ofArguments ("verify" :: arguments)) := by
    rw [Command.ofArguments, Command.withFlags]
    refine Command.alike_ofExcept_bind fun flags hFlags => ?_
    exact Command.alike_verify h hFlags
  rw [verifyOutcome, verifyOutcome, episode_run, episode_run, hAlike.results.eq]

/-- **Nothing but the evidence counts.** Two runs of `verify` with the same arguments, the same
key and expected values, and quote files that agree on the attestation and the signature have
the same exit status, the same output and the same complaint, whatever else the quote files
say, and whatever else is different in the surroundings. -/
theorem run_verify_noninterference (E : Surroundings σ) (E' : Surroundings σ') (state : σ)
    (state' : σ') (arguments : List String)
    (h : SameEvidence arguments (E.fetch state) (E'.fetch state')) :
    (verifyOutcome E state arguments).status = (verifyOutcome E' state' arguments).status ∧
    (verifyOutcome E state arguments).output = (verifyOutcome E' state' arguments).output ∧
    (verifyOutcome E state arguments).complaint =
      (verifyOutcome E' state' arguments).complaint := by
  rw [verifyOutcome_congr h]
  exact ⟨rfl, rfl, rfl⟩

/-! ### Two quote files of one quote -/

namespace Noninterference

/-- A quote of an honest TPM. -/
def quote : Quote :=
  ⟨HonestRun.attestation.write, HonestRun.signature.write⟩

/-- The file that the attester prints of it. -/
def printed : String :=
  ((QuoteFile.ofQuote HonestRun.request.nonce quote).json HonestRun.attestation).pretty ++ "\n"

/-- A file with the same evidence, another nonce, other fields, and another layout. -/
def rewritten : String :=
  "\x7b \"quote\": [1.5, null], \"note\": true, \"signature\":\"" ++
    Hex.encode HonestRun.signature.write ++ "\",\n \"attest\":\"" ++
    Hex.encode HonestRun.attestation.write ++ "\", \"nonce\":\"dead\"\x7d"

/-- What is read of that file. -/
def rewrittenFile : QuoteFile :=
  ⟨"dead", Hex.encode HonestRun.attestation.write, Hex.encode HonestRun.signature.write⟩

/-- A key file with the public area of the TPM's key. -/
def keyFile : Bytes :=
  PublicArea.write ⟨0x000b, 0, [], none, none, .rsa 0 3 (Bytes.ofNat 46 HonestRun.key.modulus)⟩

/-- Files that differ in the quote file, and there is no device. -/
def surroundings (quote : String) : Surroundings Unit where
  fetch _ path :=
    if path = "/run/quote.json" then .ok (Bytes.ofText quote)
    else if path = "keys/ak.bin" then .ok keyFile
    else if path = "/etc/tpm/pcrs.json" then .ok (Bytes.ofText HonestRun.values.file)
    else .error .notFound
  openDevice _ := pure (.error .notFound)
  send _ := pure (.error (.reported "no device"))
  draw count := pure (List.replicate count 0)
  length_draw _ _ := List.length_replicate

/-- Arguments that name the files, and the nonce of the quote. -/
def arguments : List String :=
  ["--quote", "/run/quote.json", "--ak", "keys/ak.bin", "--pcr-values", "/etc/tpm/pcrs.json",
    "--nonce", "beef"]

/-- The flags that the arguments are read as. -/
def pairs : List (String × String) :=
  [("--quote", "/run/quote.json"), ("--ak", "keys/ak.bin"), ("--pcr-values", "/etc/tpm/pcrs.json"),
    ("--nonce", "beef")]

/-- What the operands are. -/
def operands : VerifyOperands :=
  ⟨"/run/quote.json", "keys/ak.bin", "/etc/tpm/pcrs.json", "beef"⟩

/-- What the quote is appraised by. -/
def evidence : Evidence :=
  ⟨HonestRun.attestation.write, HonestRun.signature.write, HonestRun.request.nonce,
    HonestRun.values, .rsa HonestRun.key⟩

/-- The flags have no other values than these. -/
theorem mem_pairs_of_verifyFlag {flag value : String} (h : VerifyFlag arguments flag value) :
    (flag, value) ∈ pairs := by
  obtain ⟨flags, hParse, hRequire⟩ := verifyFlag_iff.mp h
  obtain rfl := Except.ok.inj hParse
  obtain ⟨before, after, hPairs, -⟩ := Flags.require_eq_ok_iff.mp hRequire
  have hMem : (flag, value) ∈ before ++ (flag, value) :: after :=
    List.mem_append_right _ List.mem_cons_self
  rw [← hPairs] at hMem
  exact hMem

/-- The arguments name the three files and the nonce. -/
theorem namedBy : operands.NamedBy arguments :=
  ⟨pairs, rfl, by decide, Flags.require_eq_ok_iff.mp rfl, Flags.require_eq_ok_iff.mp rfl,
    Flags.require_eq_ok_iff.mp rfl, Flags.require_eq_ok_iff.mp rfl⟩

/-- The quote file holds its text. -/
theorem hasText_quote (quote : String) :
    HasText ((surroundings quote).fetch ()) "/run/quote.json" quote :=
  ⟨Bytes.ofText quote, rfl, Bytes.toText?_ofText quote⟩

/-- The printed file is read back as what `quote` put into it. -/
theorem ofText?_printed :
    QuoteFile.ofText? printed = some (QuoteFile.ofQuote HonestRun.request.nonce quote) :=
  (QuoteFile.ofQuote HonestRun.request.nonce quote).ofText?_pretty _ "\n" (.inr rfl)

/-- The rewritten file is read too, with another nonce beside the same quote. -/
theorem ofText?_rewritten : QuoteFile.ofText? rewritten = some rewrittenFile := by
  decide +kernel

/-- The key file holds the key. -/
theorem load_keyFile : AttestationKey.load keyFile = .ok (.rsa HonestRun.key) := by
  decide +kernel

/-- The quote file and the others present what the quote is appraised by. -/
theorem presents : Presents ((surroundings printed).fetch ()) arguments evidence := by
  obtain ⟨-, hAttest, hSignature⟩ := QuoteFile.decode_ofQuote HonestRun.request.nonce quote
  have hValues := PcrValues.ofText_file HonestRun.state.sized "" (.inl rfl)
  rw [String.append_empty] at hValues
  exact ⟨operands, namedBy,
    { quote := ⟨printed, _, hasText_quote printed, ofText?_printed, hAttest, hSignature⟩
      key := ⟨keyFile, rfl, load_keyFile⟩
      expected := ⟨_, ⟨_, rfl, Bytes.toText?_ofText _⟩, hValues⟩
      nonce := by decide }⟩

/-- All checks of the quote succeed. -/
theorem appraisal : evidence.appraisal = .ok ⟨true, true, true⟩ := by
  obtain ⟨⟨nonce, digest, signature⟩, hVerdict, hOverall⟩ := HonestRun.exists_verdict
  simp only [Verdict.overall, Bool.and_eq_true] at hOverall
  obtain ⟨⟨rfl, rfl⟩, rfl⟩ := hOverall
  exact hVerdict

/-- The other files are the same. -/
theorem fetch_eq {path : String} (h : path ≠ "/run/quote.json") (quote quote' : String) :
    (surroundings quote).fetch () path = (surroundings quote').fetch () path := by
  simp only [surroundings, if_neg h]

/-- The files hold the same evidence. -/
theorem sameEvidence : SameEvidence arguments ((surroundings printed).fetch ())
    ((surroundings rewritten).fetch ()) where
  quote path h := by
    obtain rfl : path = "/run/quote.json" := by simpa [pairs] using mem_pairs_of_verifyFlag h
    exact ⟨printed, rewritten, _, rewrittenFile, hasText_quote _, hasText_quote _, ofText?_printed,
      ofText?_rewritten, rfl, rfl⟩
  key path h := by
    obtain rfl : path = "keys/ak.bin" := by simpa [pairs] using mem_pairs_of_verifyFlag h
    exact fetch_eq (by decide) _ _
  expected path h := by
    obtain rfl : path = "/etc/tpm/pcrs.json" := by simpa [pairs] using mem_pairs_of_verifyFlag h
    exact fetch_eq (by decide) _ _

end Noninterference

open Noninterference in
/-- Two files of one quote record different nonces, and have the same outcome, which is that of
a positive verdict. -/
theorem run_verify_noninterference_of_rewritten :
    (QuoteFile.ofQuote HonestRun.request.nonce quote).nonce ≠ rewrittenFile.nonce ∧
    verifyOutcome (surroundings printed) () arguments = Verdict.outcome ⟨true, true, true⟩ ∧
    (verifyOutcome (surroundings printed) () arguments).status =
      (verifyOutcome (surroundings rewritten) () arguments).status ∧
    (verifyOutcome (surroundings printed) () arguments).output =
      (verifyOutcome (surroundings rewritten) () arguments).output ∧
    (verifyOutcome (surroundings printed) () arguments).complaint =
      (verifyOutcome (surroundings rewritten) () arguments).complaint :=
  ⟨by decide, verifyOutcome_of_presents presents appraisal,
    run_verify_noninterference _ _ _ _ _ sameEvidence⟩

end RemoteAttestation
