import RemoteAttestation.Hash.Block

/-!
# SHA-2

The hashes SHA-256, SHA-384 and SHA-512 are one algorithm over words of 32 or 64 bits. A
`Variant` holds what differs: the amounts by which words are rotated and shifted, the round
constants, the first state and the size of the digest. SHA-384 is SHA-512 from another first
state, cut to forty-eight octets.

## Main definitions

* `Sha2.Variant`, `Sha2.sha256`, `Sha2.sha384`, `Sha2.sha512`: the hashes by their parameters.
* `Sha2.compress`: the state after one more block.
* `Sha2.digest`: the digest of a message.
-/

namespace RemoteAttestation.Sha2

/-- The eight words of state. -/
structure State (width : Nat) where
  a : BitVec width
  b : BitVec width
  c : BitVec width
  d : BitVec width
  e : BitVec width
  f : BitVec width
  g : BitVec width
  h : BitVec width

/-- Three amounts by which a word is rotated or shifted. -/
structure Amounts where
  first : Nat
  second : Nat
  third : Nat

/-- What sets the hashes of the family apart, for words of `width` bits. -/
structure Variant (width : Nat) where
  /-- Rotations of the first word of state. -/
  upper : Amounts
  /-- Rotations of the fifth word of state. -/
  lower : Amounts
  /-- Two rotations and a shift of the schedule's second word. -/
  early : Amounts
  /-- Two rotations and a shift of the schedule's fifteenth word. -/
  late : Amounts
  /-- The constant of each round. -/
  constants : List (BitVec width)
  /-- The state before the first block. -/
  initial : State width
  /-- The number of octets in a digest. -/
  size : Nat

variable {width : Nat}

/-- Three rotations of a word, combined by exclusive or. -/
def rotations (m : Amounts) (x : BitVec width) : BitVec width :=
  x.rotateRight m.first ^^^ x.rotateRight m.second ^^^ x.rotateRight m.third

/-- Two rotations and a shift of a word, combined by exclusive or. -/
def shifts (m : Amounts) (x : BitVec width) : BitVec width :=
  x.rotateRight m.first ^^^ x.rotateRight m.second ^^^ (x >>> m.third)

/-- The word of the schedule after the sixteen words of `window`. -/
def nextWord (v : Variant width) (window : List (BitVec width)) : BitVec width :=
  shifts v.late (window.getD 14 0) + window.getD 9 0 + shifts v.early (window.getD 1 0) +
    window.getD 0 0

/-- `n` words of the schedule that starts with `window`. -/
def schedule (v : Variant width) : (n : Nat) → (window : List (BitVec width)) → List (BitVec width)
  | 0, _ => []
  | n + 1, window => window.headD 0 :: schedule v n (window.tail ++ [nextWord v window])

/-- One round, with its constant and its word of the schedule. -/
def step (v : Variant width) (s : State width) (constant word : BitVec width) : State width :=
  let choice := (s.e &&& s.f) ^^^ (~~~s.e &&& s.g)
  let majority := (s.a &&& s.b) ^^^ (s.a &&& s.c) ^^^ (s.b &&& s.c)
  let t := s.h + rotations v.lower s.e + choice + constant + word
  ⟨t + rotations v.upper s.a + majority, s.a, s.b, s.c, s.d + t, s.e, s.f, s.g⟩

/-- The **state after a block**. -/
def compress (v : Variant width) (s : State width) (block : Bytes) : State width :=
  let words := schedule v v.constants.length (Block.words width block)
  let t := (v.constants.zip words).foldl (fun t (constant, word) => step v t constant word) s
  ⟨s.a + t.a, s.b + t.b, s.c + t.c, s.d + t.d, s.e + t.e, s.f + t.f, s.g + t.g, s.h + t.h⟩

/-- The octets of a state. -/
def State.toBytes (s : State width) : Bytes :=
  [s.a, s.b, s.c, s.d, s.e, s.f, s.g, s.h].flatMap fun word => Bytes.ofNat (width / 8) word.toNat

/-- The **digest** of a message. Blocks hold sixteen words, and the length at the end of the
padded message takes two. -/
def digest (v : Variant width) (message : Bytes) : Bytes :=
  let padded := Block.pad (2 * width) (width / 4) message
  ((Block.splitAll (2 * width) padded).foldl (compress v) v.initial).toBytes.take v.size

/-- A digest is the front of the state, so it has the size of its variant if the state is long
enough. -/
theorem length_digest (v : Variant width) (h : v.size ≤ 8 * (width / 8)) (message : Bytes) :
    (digest v message).length = v.size := by
  simp only [digest, State.toBytes, List.length_take, List.flatMap_cons, List.flatMap_nil,
    List.length_append, Bytes.length_ofNat, List.length_nil]
  omega

/-! ### The hashes -/

/-- The round constants for words of 32 bits: the fractional parts of the cube roots of the
first sixty-four primes. -/
def constants32 : List (BitVec 32) :=
  [0x428a2f98, 0x71374491, 0xb5c0fbcf, 0xe9b5dba5, 0x3956c25b, 0x59f111f1, 0x923f82a4,
   0xab1c5ed5, 0xd807aa98, 0x12835b01, 0x243185be, 0x550c7dc3, 0x72be5d74, 0x80deb1fe,
   0x9bdc06a7, 0xc19bf174, 0xe49b69c1, 0xefbe4786, 0x0fc19dc6, 0x240ca1cc, 0x2de92c6f,
   0x4a7484aa, 0x5cb0a9dc, 0x76f988da, 0x983e5152, 0xa831c66d, 0xb00327c8, 0xbf597fc7,
   0xc6e00bf3, 0xd5a79147, 0x06ca6351, 0x14292967, 0x27b70a85, 0x2e1b2138, 0x4d2c6dfc,
   0x53380d13, 0x650a7354, 0x766a0abb, 0x81c2c92e, 0x92722c85, 0xa2bfe8a1, 0xa81a664b,
   0xc24b8b70, 0xc76c51a3, 0xd192e819, 0xd6990624, 0xf40e3585, 0x106aa070, 0x19a4c116,
   0x1e376c08, 0x2748774c, 0x34b0bcb5, 0x391c0cb3, 0x4ed8aa4a, 0x5b9cca4f, 0x682e6ff3,
   0x748f82ee, 0x78a5636f, 0x84c87814, 0x8cc70208, 0x90befffa, 0xa4506ceb, 0xbef9a3f7,
   0xc67178f2]

/-- The round constants for words of 64 bits: the fractional parts of the cube roots of the
first eighty primes. -/
def constants64 : List (BitVec 64) :=
  [0x428a2f98d728ae22, 0x7137449123ef65cd, 0xb5c0fbcfec4d3b2f, 0xe9b5dba58189dbbc,
   0x3956c25bf348b538, 0x59f111f1b605d019, 0x923f82a4af194f9b, 0xab1c5ed5da6d8118,
   0xd807aa98a3030242, 0x12835b0145706fbe, 0x243185be4ee4b28c, 0x550c7dc3d5ffb4e2,
   0x72be5d74f27b896f, 0x80deb1fe3b1696b1, 0x9bdc06a725c71235, 0xc19bf174cf692694,
   0xe49b69c19ef14ad2, 0xefbe4786384f25e3, 0x0fc19dc68b8cd5b5, 0x240ca1cc77ac9c65,
   0x2de92c6f592b0275, 0x4a7484aa6ea6e483, 0x5cb0a9dcbd41fbd4, 0x76f988da831153b5,
   0x983e5152ee66dfab, 0xa831c66d2db43210, 0xb00327c898fb213f, 0xbf597fc7beef0ee4,
   0xc6e00bf33da88fc2, 0xd5a79147930aa725, 0x06ca6351e003826f, 0x142929670a0e6e70,
   0x27b70a8546d22ffc, 0x2e1b21385c26c926, 0x4d2c6dfc5ac42aed, 0x53380d139d95b3df,
   0x650a73548baf63de, 0x766a0abb3c77b2a8, 0x81c2c92e47edaee6, 0x92722c851482353b,
   0xa2bfe8a14cf10364, 0xa81a664bbc423001, 0xc24b8b70d0f89791, 0xc76c51a30654be30,
   0xd192e819d6ef5218, 0xd69906245565a910, 0xf40e35855771202a, 0x106aa07032bbd1b8,
   0x19a4c116b8d2d0c8, 0x1e376c085141ab53, 0x2748774cdf8eeb99, 0x34b0bcb5e19b48a8,
   0x391c0cb3c5c95a63, 0x4ed8aa4ae3418acb, 0x5b9cca4f7763e373, 0x682e6ff3d6b2b8a3,
   0x748f82ee5defb2fc, 0x78a5636f43172f60, 0x84c87814a1f0ab72, 0x8cc702081a6439ec,
   0x90befffa23631e28, 0xa4506cebde82bde9, 0xbef9a3f7b2c67915, 0xc67178f2e372532b,
   0xca273eceea26619c, 0xd186b8c721c0c207, 0xeada7dd6cde0eb1e, 0xf57d4f7fee6ed178,
   0x06f067aa72176fba, 0x0a637dc5a2c898a6, 0x113f9804bef90dae, 0x1b710b35131c471b,
   0x28db77f523047d84, 0x32caab7b40c72493, 0x3c9ebe0a15c9bebc, 0x431d67c49c100d4c,
   0x4cc5d4becb3e42b6, 0x597f299cfc657e2a, 0x5fcb6fab3ad6faec, 0x6c44198c4a475817]

/-- SHA-256. -/
def sha256 : Variant 32 where
  upper := ⟨2, 13, 22⟩
  lower := ⟨6, 11, 25⟩
  early := ⟨7, 18, 3⟩
  late := ⟨17, 19, 10⟩
  constants := constants32
  initial := ⟨0x6a09e667, 0xbb67ae85, 0x3c6ef372, 0xa54ff53a,
    0x510e527f, 0x9b05688c, 0x1f83d9ab, 0x5be0cd19⟩
  size := 32

/-- SHA-512. -/
def sha512 : Variant 64 where
  upper := ⟨28, 34, 39⟩
  lower := ⟨14, 18, 41⟩
  early := ⟨1, 8, 7⟩
  late := ⟨19, 61, 6⟩
  constants := constants64
  initial := ⟨0x6a09e667f3bcc908, 0xbb67ae8584caa73b, 0x3c6ef372fe94f82b, 0xa54ff53a5f1d36f1,
    0x510e527fade682d1, 0x9b05688c2b3e6c1f, 0x1f83d9abfb41bd6b, 0x5be0cd19137e2179⟩
  size := 64

/-- SHA-384. -/
def sha384 : Variant 64 where
  upper := sha512.upper
  lower := sha512.lower
  early := sha512.early
  late := sha512.late
  constants := constants64
  initial := ⟨0xcbbb9d5dc1059ed8, 0x629a292a367cd507, 0x9159015a3070dd17, 0x152fecd8f70e5939,
    0x67332667ffc00b31, 0x8eb44a8768581511, 0xdb0c2e0d64f98fa7, 0x47b5481dbefa4fa4⟩
  size := 48

end RemoteAttestation.Sha2
