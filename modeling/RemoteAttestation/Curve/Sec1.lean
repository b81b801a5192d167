import RemoteAttestation.Curve.Basic

/-!
# Encoded Points

A point is written as a tag and its coordinates: both of them behind the tag 4, or only the
first one. Behind the tags 2 and 3 the second coordinate is the root with that parity, and
behind the tag 5 it is the smaller of the two roots. Reading refuses coordinates that are not
reduced and pairs that are not on the curve.

## Main definitions

* `Sec1.decode?`: the point that a string describes.
* `Sec1.encode`: the form of a point with both coordinates.
-/

namespace RemoteAttestation.Sec1

/-- The point with the given coordinates, if they are those of one. -/
def point? (c : Curve) (x y : Nat) : Option c.Point :=
  if h : c.Contains x y then some ⟨x, y, h⟩ else none

/-- The point with first coordinate `x` whose second coordinate `choose` picks from the two
roots of the equation, given one of them. -/
def lift? (c : Curve) (x : Nat) (choose : Nat → Nat) : Option c.Point :=
  point? c x (choose (c.root (c.cubic x)))

/-- The other root of the equation. -/
def negate (c : Curve) (y : Nat) : Nat :=
  Arithmetic.subMod 0 y c.prime

/-- The root with the given parity. -/
def withParity (c : Curve) (parity y : Nat) : Nat :=
  if y % 2 = parity then y else negate c y

/-- The smaller root. -/
def smaller (c : Curve) (y : Nat) : Nat :=
  min y (negate c y)

/-- The **point** that a string describes. -/
def decode? (c : Curve) : Bytes → Option c.Point
  | [] => none
  | tag :: rest =>
    if tag = 4 then
      if rest.length = 2 * c.width then
        point? c (Bytes.value (rest.take c.width)) (Bytes.value (rest.drop c.width))
      else none
    else if rest.length = c.width then
      match tag with
      | 2 => lift? c (Bytes.value rest) (withParity c 0)
      | 3 => lift? c (Bytes.value rest) (withParity c 1)
      | 5 => lift? c (Bytes.value rest) (smaller c)
      | _ => none
    else none

/-- The form of a point with both coordinates. -/
def encode {c : Curve} (point : c.Point) : Bytes :=
  4 :: Bytes.ofNat c.width point.x ++ Bytes.ofNat c.width point.y

end RemoteAttestation.Sec1
