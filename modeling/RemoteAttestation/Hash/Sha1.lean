import RemoteAttestation.Hash.Block

/-!
# SHA-1

The hash with twenty octets, kept for the PCR banks that still use it. Eighty rounds, in four
groups with a function and a constant of their own, mix the words of a block into five words of
state.

## Main definitions

* `Sha1.compress`: the state after one more block.
* `Sha1.digest`: the digest of a message.
-/

namespace RemoteAttestation.Sha1

/-- The five words of state. -/
structure State where
  a : BitVec 32
  b : BitVec 32
  c : BitVec 32
  d : BitVec 32
  e : BitVec 32

/-- The state before the first block. -/
def initial : State :=
  ⟨0x67452301, 0xefcdab89, 0x98badcfe, 0x10325476, 0xc3d2e1f0⟩

/-- The word of the schedule after the sixteen words of `window`. -/
def nextWord (window : List (BitVec 32)) : BitVec 32 :=
  (window.getD 13 0 ^^^ window.getD 8 0 ^^^ window.getD 2 0 ^^^ window.getD 0 0).rotateLeft 1

/-- `n` words of the schedule that starts with `window`. -/
def schedule : (n : Nat) → (window : List (BitVec 32)) → List (BitVec 32)
  | 0, _ => []
  | n + 1, window => window.headD 0 :: schedule n (window.tail ++ [nextWord window])

/-- The function and the constant of a round. -/
def round (index : Nat) (b c d : BitVec 32) : BitVec 32 × BitVec 32 :=
  if index < 20 then ((b &&& c) ||| (~~~b &&& d), 0x5a827999)
  else if index < 40 then (b ^^^ c ^^^ d, 0x6ed9eba1)
  else if index < 60 then ((b &&& c) ||| (b &&& d) ||| (c &&& d), 0x8f1bbcdc)
  else (b ^^^ c ^^^ d, 0xca62c1d6)

/-- One round, with its word of the schedule. -/
def step (s : State) (word : BitVec 32) (index : Nat) : State :=
  let (f, k) := round index s.b s.c s.d
  ⟨s.a.rotateLeft 5 + f + s.e + k + word, s.a, s.b.rotateLeft 30, s.c, s.d⟩

/-- The **state after a block**. -/
def compress (s : State) (block : Bytes) : State :=
  let words := schedule 80 (Block.words 32 block)
  let t := words.zipIdx.foldl (fun t (word, index) => step t word index) s
  ⟨s.a + t.a, s.b + t.b, s.c + t.c, s.d + t.d, s.e + t.e⟩

/-- The octets of a state. -/
def State.toBytes (s : State) : Bytes :=
  [s.a, s.b, s.c, s.d, s.e].flatMap fun word => Bytes.ofNat 4 word.toNat

/-- The **digest** of a message. -/
def digest (message : Bytes) : Bytes :=
  ((Block.splitAll 64 (Block.pad 64 8 message)).foldl compress initial).toBytes

/-- A digest has five words of 32 bits. -/
@[simp] theorem length_digest (message : Bytes) : (digest message).length = 20 := by
  simp [digest, State.toBytes]

end RemoteAttestation.Sha1
