import RemoteAttestation.Arithmetic
import RemoteAttestation.Bytes.Basic

/-!
# Elliptic Curves

The two curves on which attestation keys live, P-256 and P-384, in the form
`y ^ 2 = x ^ 3 - 3 * x + b` over a prime field, and the arithmetic of their points. A `Point`
is a finite point that is known to lie on its curve; sums are computed in Jacobian coordinates,
in which `(x, y, z)` stands for `(x / z ^ 2, y / z ^ 3)` and no division is needed.

## Main definitions

* `Curve`, with `Curve.prime`, `Curve.order` and `Curve.width`, the octets of a coordinate.
* `Curve.Contains`, `Curve.Point`: the finite points of a curve.
* `Curve.Jacobian.add`, `Curve.Jacobian.multiply`: sums and multiples of points.
-/

namespace RemoteAttestation

open Arithmetic

/-- The curves of attestation keys. -/
inductive Curve where
  | p256
  | p384
  deriving Repr, DecidableEq

namespace Curve

/-! ### Parameters -/

/-- The number of octets of a coordinate, and of a number below the order. -/
def width : Curve → Nat
  | p256 => 32
  | p384 => 48

/-- A number of 384 bits from its halves. -/
def halves (upper lower : Nat) : Nat :=
  upper <<< 192 ||| lower

/-- The characteristic of the field. -/
def prime : Curve → Nat
  | p256 => 0xffffffff00000001000000000000000000000000ffffffffffffffffffffffff
  | p384 =>
    halves 0xffffffffffffffffffffffffffffffffffffffffffffffff
      0xfffffffffffffffeffffffff0000000000000000ffffffff

/-- The constant term of the curve's equation. -/
def constant : Curve → Nat
  | p256 => 0x5ac635d8aa3a93e7b3ebbd55769886bc651d06b0cc53b0f63bce3c3e27d2604b
  | p384 =>
    halves 0xb3312fa7e23ee7e4988e056be3f82d19181d9c6efe814112
      0x0314088f5013875ac656398d8a2ed19d2a85c8edd3ec2aef

/-- The number of points, which is prime. -/
def order : Curve → Nat
  | p256 => 0xffffffff00000000ffffffffffffffffbce6faada7179e84f3b9cac2fc632551
  | p384 =>
    halves 0xffffffffffffffffffffffffffffffffffffffffffffffff
      0xc7634d81f4372ddf581a0db248b0a77aecec196accc52973

/-- The coordinates of the base point. -/
def base : Curve → Nat × Nat
  | p256 =>
    (0x6b17d1f2e12c4247f8bce6e563a440f277037d812deb33a0f4a13945d898c296,
     0x4fe342e2fe1a7f9b8ee7eb4a7c0f9e162bce33576b315ececbb6406837bf51f5)
  | p384 =>
    (halves 0xaa87ca22be8b05378eb1c71ef320ad746e1d3b628ba79b98
        0x59f741e082542a385502f25dbf55296c3a545e3872760ab7,
     halves 0x3617de4a96262c6f5d9e98bf9292dc29f8f41dbd289a147c
        0xe9da3113b5f0b8c00a60b1ce1d7e819d7a431d7c90ea0e5f)

/-! ### Points -/

/-- The right-hand side of the curve's equation. -/
def cubic (c : Curve) (x : Nat) : Nat :=
  subMod (x * x * x % c.prime + c.constant) (3 * x % c.prime) c.prime

/-- The pair `(x, y)` is a **point** of the curve, with both coordinates reduced. -/
def Contains (c : Curve) (x y : Nat) : Prop :=
  x < c.prime ∧ y < c.prime ∧ y * y % c.prime = c.cubic x

instance (c : Curve) (x y : Nat) : Decidable (c.Contains x y) :=
  inferInstanceAs (Decidable (_ ∧ _ ∧ _))

/-- A finite point of a curve. -/
structure Point (c : Curve) where
  /-- The first coordinate. -/
  x : Nat
  /-- The second coordinate. -/
  y : Nat
  /-- The coordinates satisfy the equation. -/
  onCurve : c.Contains x y
  deriving DecidableEq

/-- A root of `n` modulo the curve's prime, when `n` is a square: the prime is three modulo
four, so the root is a power. -/
def root (c : Curve) (n : Nat) : Nat :=
  powMod n ((c.prime + 1) / 4) c.prime

/-! ### Arithmetic of points -/

/-- A point in Jacobian coordinates; the neutral point is the one with `z = 0`. -/
structure Jacobian where
  x : Nat
  y : Nat
  z : Nat
  deriving Repr

namespace Jacobian

/-- The neutral point. -/
def neutral : Jacobian :=
  ⟨1, 1, 0⟩

/-- Twice a point. -/
def double (c : Curve) (a : Jacobian) : Jacobian :=
  let p := c.prime
  let zz := a.z * a.z % p
  let yy := a.y * a.y % p
  let s := 4 * a.x * yy % p
  let m := 3 * (subMod a.x zz p * (a.x + zz) % p) % p
  let x := subMod (m * m % p) (2 * s % p) p
  let y := subMod (m * subMod s x p % p) (8 * (yy * yy % p) % p) p
  ⟨x, y, 2 * a.y * a.z % p⟩

/-- The **sum** of two points. -/
def add (c : Curve) (a b : Jacobian) : Jacobian :=
  if a.z = 0 then b
  else if b.z = 0 then a
  else
    let p := c.prime
    let aa := a.z * a.z % p
    let bb := b.z * b.z % p
    let u := a.x * bb % p
    let u' := b.x * aa % p
    let s := a.y * bb % p * b.z % p
    let s' := b.y * aa % p * a.z % p
    if u = u' then
      if s = s' then double c a else neutral
    else
      let h := subMod u' u p
      let r := subMod s' s p
      let hh := h * h % p
      let hhh := h * hh % p
      let v := u * hh % p
      let x := subMod (subMod (r * r % p) hhh p) (2 * v % p) p
      let y := subMod (r * subMod v x p % p) (s * hhh % p) p
      ⟨x, y, h * a.z % p * b.z % p⟩

/-- `total` and `n` times `a`, over the lowest `digits` binary digits of `n`. -/
def multiplyDigits (c : Curve) : (digits n : Nat) → (a total : Jacobian) → Jacobian
  | 0, _, _, total => total
  | digits + 1, n, a, total =>
    multiplyDigits c digits (n / 2) (double c a) (if n % 2 = 1 then add c total a else total)

/-- The **multiple** `n` of a point. -/
def multiply (c : Curve) (n : Nat) (a : Jacobian) : Jacobian :=
  multiplyDigits c (bitLength n) n a neutral

/-- The first coordinate of a point; zero for the neutral point. -/
def affineX (c : Curve) (a : Jacobian) : Nat :=
  let inverse := invMod a.z c.prime
  a.x * (inverse * inverse % c.prime) % c.prime

end Jacobian

/-- The base point. -/
def generator (c : Curve) : Jacobian :=
  ⟨c.base.1, c.base.2, 1⟩

/-- A finite point in Jacobian coordinates. -/
def Point.toJacobian {c : Curve} (point : c.Point) : Jacobian :=
  ⟨point.x, point.y, 1⟩

end Curve

end RemoteAttestation
