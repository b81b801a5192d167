import RemoteAttestation.Arithmetic
import RemoteAttestation.Bytes.Basic

/-!
# RSA Keys

A public key is an odd modulus of at most 4096 bits and an odd exponent between two and
`2 ^ 33`, less than the modulus. A key carries the proof of this, so the operations need not
check again. The bounds are tested in a fixed order, and the first that fails is the fault.

## Main definitions

* `RsaKey`, `RsaKey.make`: a valid key, and the check of a modulus and an exponent.
* `RsaKey.size`: the number of octets of the modulus, and of every signature.
* `RsaKey.apply`: the public operation on an integer.
-/

namespace RemoteAttestation

open Arithmetic

/-- Why a modulus and an exponent are not a key. -/
inductive RsaKeyFault where
  /-- The modulus has more than 4096 bits. -/
  | modulusTooLarge
  /-- The modulus is even, or not greater than the exponent. -/
  | invalidModulus
  /-- The exponent is even. -/
  | invalidExponent
  /-- The exponent is one. -/
  | exponentTooSmall
  /-- The exponent has more than thirty-three bits. -/
  | exponentTooLarge
  deriving Repr, DecidableEq

/-- The wording of a fault. -/
def RsaKeyFault.message : RsaKeyFault → String
  | modulusTooLarge => "modulus too large"
  | invalidModulus => "invalid modulus"
  | invalidExponent => "invalid exponent"
  | exponentTooSmall => "public exponent too small"
  | exponentTooLarge => "public exponent too large"

/-- A public key. -/
structure RsaKey where
  /-- The modulus. -/
  modulus : Nat
  /-- The public exponent. -/
  exponent : Nat
  /-- The modulus is not larger than a TPM key can be. -/
  modulus_bits : bitLength modulus ≤ 4096
  /-- The modulus is odd. -/
  modulus_odd : modulus % 2 = 1
  /-- The exponent is less than the modulus. -/
  exponent_lt : exponent < modulus
  /-- The exponent is odd. -/
  exponent_odd : exponent % 2 = 1
  /-- The exponent is not one. -/
  two_le_exponent : 2 ≤ exponent
  /-- The exponent has at most thirty-three bits. -/
  exponent_bits : exponent < 1 <<< 33
  deriving DecidableEq

namespace RsaKey

/-- The key with a modulus and an exponent, or the first bound that they break. -/
def make (modulus exponent : Nat) : Except RsaKeyFault RsaKey :=
  if hBits : 4096 < bitLength modulus then .error .modulusTooLarge
  else if hModulus : modulus ≤ exponent ∨ modulus % 2 = 0 then .error .invalidModulus
  else if hOdd : exponent % 2 = 0 then .error .invalidExponent
  else if hSmall : exponent < 2 then .error .exponentTooSmall
  else if hLarge : 1 <<< 33 ≤ exponent then .error .exponentTooLarge
  else .ok
    { modulus, exponent
      modulus_bits := by omega
      modulus_odd := by omega
      exponent_lt := by omega
      exponent_odd := by omega
      two_le_exponent := by omega
      exponent_bits := by omega }

/-- The number of octets of the modulus. -/
def size (key : RsaKey) : Nat :=
  octetLength key.modulus

/-- The public operation: the power of `n` to the exponent, modulo the modulus. -/
def apply (key : RsaKey) (n : Nat) : Nat :=
  powMod n key.exponent key.modulus

/-- The octets that the public operation makes of a signature, as many as the modulus has. -/
def recover (key : RsaKey) (signature : Bytes) : Bytes :=
  Bytes.ofNat key.size (key.apply signature.value)

end RsaKey

end RemoteAttestation
