import RemoteAttestation.Text.Quoted

/-!
# Flags

The arguments of a command are flags, each followed by its value; a value may look like a flag.
A flag may be given several times: then its last value counts, or all of them in their order
where a command takes a list.

## Main definitions

* `usage`: the text that tells how the program is called.
* `Flags`, `Flags.parse`: flags with their values, and their reading.
* `Flags.get?`, `Flags.all`, `Flags.require`: the values of a flag.
-/

namespace RemoteAttestation

/-- How the program is called. -/
def usage : String :=
  String.intercalate "\n" [
    "Usage: tpm2quote <command> [options]",
    "",
    "  quote   [--config FILE] [--device PATH] [--handle HEX] [--pcrs ALG:I,J,...]...",
    "          [--scheme null|rsassa|rsapss|ecdsa[:HASH]] [--nonce HEX]",
    "          Ask the TPM for a quote and print it as JSON",
    "",
    "  verify  --quote FILE --ak FILE --pcr-values FILE --nonce HEX",
    "          Check a quote printed by `quote`; exits non-zero unless every check passes.",
    "          --nonce is the value the verifier issued, not the one in the quote file.",
    "",
    "  pcrs    [--config FILE] [--device PATH] [--pcrs ALG:I,J,...]...",
    "          Read PCR values from the TPM and print them in the --pcr-values format",
    "",
    "  decode  --attest HEX",
    "          Print a TPMS_ATTEST as JSON",
    "",
    "Logging goes to stderr; set RUST_LOG=debug for decoded fields and per-check results."]

/-- What is wrong with the arguments of a command. -/
inductive FlagFault where
  /-- An argument in the place of a flag is none that the command knows. -/
  | unknown (argument : String)
  /-- The last flag has no value. -/
  | noValue (flag : String)
  /-- A flag is missing that the command needs. -/
  | missing (flag : String)
  deriving Repr, DecidableEq

/-- The wording of a fault. -/
def FlagFault.message : FlagFault → String
  | unknown argument => s!"Unknown argument {Quoted.text argument}\n\n{usage}"
  | noValue flag => s!"{flag} needs a value"
  | missing flag => s!"Missing required {flag}\n\n{usage}"

/-- Flags with their values, in the order of the arguments. -/
structure Flags where
  /-- The flags and values. -/
  pairs : List (String × String)
  deriving Repr, DecidableEq

namespace Flags

/-- Reads arguments as flags that the command knows, each with a value. -/
def parsePairs (known : List String) : List String → Except FlagFault (List (String × String))
  | [] => .ok []
  | [flag] => .error (if known.contains flag then .noValue flag else .unknown flag)
  | flag :: value :: rest =>
    if known.contains flag then ((flag, value) :: ·) <$> parsePairs known rest
    else .error (.unknown flag)

/-- The **flags** that some arguments are, if the command knows them all. -/
def parse (known arguments : List String) : Except FlagFault Flags :=
  Flags.mk <$> parsePairs known arguments

/-- All values of a flag, in their order. -/
def all (flags : Flags) (flag : String) : List String :=
  (flags.pairs.filter (·.1 == flag)).map Prod.snd

/-- The last value of a flag. -/
def get? (flags : Flags) (flag : String) : Option String :=
  (flags.all flag).getLast?

/-- The last value of a flag that the command needs. -/
def require (flags : Flags) (flag : String) : Except FlagFault String :=
  match flags.get? flag with
  | some value => .ok value
  | none => .error (.missing flag)

end Flags

end RemoteAttestation
