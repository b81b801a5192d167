/-!
# Modular Arithmetic

The arithmetic under the signature schemes: powers and inverses modulo a number, and the number
of binary digits. Numbers are ordinary natural numbers below the modulus.

## Main definitions

* `Arithmetic.bitLength`, `Arithmetic.octetLength`: how many bits and octets a number needs.
* `Arithmetic.powMod`: a power, by repeated squaring.
* `Arithmetic.subMod`, `Arithmetic.invMod`: differences, and inverses modulo a prime.
-/

namespace RemoteAttestation.Arithmetic

/-- The number of binary digits of `n`; zero has none. -/
def bitLength (n : Nat) : Nat :=
  if n = 0 then 0 else n.log2 + 1

/-- The number of octets that hold a number of `bits` binary digits. -/
def octetsFor (bits : Nat) : Nat :=
  (bits + 7) / 8

/-- The number of octets of `n`; zero has none. -/
def octetLength (n : Nat) : Nat :=
  octetsFor (bitLength n)

/-- `total * base ^ exponent` modulo `modulus`, over the lowest `digits` binary digits of the
exponent. -/
def powDigits (modulus : Nat) : (digits base exponent total : Nat) → Nat
  | 0, _, _, total => total
  | digits + 1, base, exponent, total =>
    powDigits modulus digits (base * base % modulus) (exponent / 2)
      (if exponent % 2 = 1 then total * base % modulus else total)

/-- The **power** `base ^ exponent` modulo `modulus`. -/
def powMod (base exponent modulus : Nat) : Nat :=
  powDigits modulus (bitLength exponent) (base % modulus) exponent (1 % modulus)

/-- The difference of two numbers below the modulus. -/
def subMod (a b modulus : Nat) : Nat :=
  (a + (modulus - b)) % modulus

/-- The inverse of a number modulo a prime, which is a power of it by Fermat's theorem. Zero
has itself as inverse. -/
def invMod (a prime : Nat) : Nat :=
  powMod a (prime - 2) prime

end RemoteAttestation.Arithmetic
