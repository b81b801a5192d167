import RemoteAttestation.Bytes.Basic

/-!
# Base64 Text

The body of a PEM block writes three octets as four characters of six bits each. One or two
octets left at the end are written as two or three characters and padded to four with equals
signs; the bits that stand for no octet are zero. Reading accepts exactly what writing
produces.

## Main definitions

* `Base64.encode`: the characters of an octet string.
* `Base64.decode`: the octet string of some characters.
-/

namespace RemoteAttestation.Base64

/-- The character of a number below sixty-four. -/
def digit (n : Nat) : Char :=
  if n < 26 then Char.ofNat (65 + n)
  else if n < 52 then Char.ofNat (71 + n)
  else if n < 62 then Char.ofNat (n - 4)
  else if n = 62 then '+'
  else '/'

/-- The number of a character of the alphabet. -/
def digit? (c : Char) : Option Nat :=
  if 'A' ≤ c ∧ c ≤ 'Z' then some (c.toNat - 65)
  else if 'a' ≤ c ∧ c ≤ 'z' then some (c.toNat - 71)
  else if '0' ≤ c ∧ c ≤ '9' then some (c.toNat + 4)
  else if c = '+' then some 62
  else if c = '/' then some 63
  else none

/-- The number that some characters denote, six bits each, first character first. -/
def sextets? : List Char → Option Nat
  | cs => cs.foldlM (fun total c => (digit? c).map (64 * total + ·)) 0

/-- The characters of an octet string. -/
def encode : Bytes → List Char
  | x :: y :: z :: rest =>
    let n := Bytes.value [x, y, z]
    digit (n / 64 / 64 / 64) :: digit (n / 64 / 64 % 64) :: digit (n / 64 % 64) :: digit (n % 64) ::
      encode rest
  | [x, y] =>
    let n := 4 * Bytes.value [x, y]
    [digit (n / 64 / 64), digit (n / 64 % 64), digit (n % 64), '=']
  | [x] =>
    let n := 16 * x.toNat
    [digit (n / 64), digit (n % 64), '=', '=']
  | [] => []

/-- The octet string that some characters write, or `none` when they are not the Base64 form of
any. -/
def decode : List Char → Option Bytes
  | [] => some []
  | [a, b, '=', '='] => do
    let n ← sextets? [a, b]
    if n % 16 = 0 then some (Bytes.ofNat 1 (n / 16)) else none
  | [a, b, c, '='] => do
    let n ← sextets? [a, b, c]
    if n % 4 = 0 then some (Bytes.ofNat 2 (n / 4)) else none
  | a :: b :: c :: d :: rest => do
    let n ← sextets? [a, b, c, d]
    let octets ← decode rest
    return Bytes.ofNat 3 n ++ octets
  | _ => none

end RemoteAttestation.Base64
