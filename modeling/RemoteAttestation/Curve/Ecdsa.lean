import RemoteAttestation.Curve.Basic

/-!
# ECDSA

The check of a pair of integers against a digest and a point. The digest becomes an integer by
keeping as many octets as a coordinate has; a digest of less than half that size is refused.
Both integers of a pair must lie between one and the curve's order, but the second need not be
the smaller of its two possible values.

## Main definitions

* `Ecdsa.verify`: whether a pair of integers signs a digest.
-/

namespace RemoteAttestation.Ecdsa

open Arithmetic

/-- The integer that a digest stands for on a curve, or `none` for a digest that is too
short. -/
def digestNumber? (c : Curve) (digest : Bytes) : Option Nat :=
  if digest.length < c.width / 2 then none
  else some (Bytes.value (digest.take c.width) % c.order)

/-- Whether the pair `(r, s)` **signs** a digest for the holder of `key`. -/
def verify (c : Curve) (key : c.Point) (digest : Bytes) (r s : Nat) : Bool :=
  let n := c.order
  if r = 0 ∨ n ≤ r ∨ s = 0 ∨ n ≤ s then false
  else
    match digestNumber? c digest with
    | none => false
    | some z =>
      let w := invMod s n
      let sum := Curve.Jacobian.add c
        (Curve.Jacobian.multiply c (z * w % n) c.generator)
        (Curve.Jacobian.multiply c (r * w % n) key.toJacobian)
      sum.affineX c % n == r

end RemoteAttestation.Ecdsa
