import RemoteAttestation.Bytes.Basic

/-!
# Messages as Blocks

The SHA hashes read a message in blocks of equal size. The message is first lengthened: a one
bit, as few zero bits as will do, and the number of bits in the message, so that the last block
is full. A block is then read as words.

## Main definitions

* `Block.pad`: the lengthened message.
* `Block.split`: a string in pieces of one size.
* `Block.words`: a string as a list of words.
-/

namespace RemoteAttestation.Block

/-- The message followed by a one bit, zero bits, and its number of bits in `lengthSize`
octets; the zeros fill the last block of `blockSize` octets. -/
def pad (blockSize lengthSize : Nat) (message : Bytes) : Bytes :=
  let used := (message.length + 1 + lengthSize) % blockSize
  let zeros := (blockSize - used) % blockSize
  message ++ 0x80 :: List.replicate zeros 0 ++ Bytes.ofNat lengthSize (8 * message.length)

/-- The first `count` pieces of `size` octets. -/
def split (size : Nat) : (count : Nat) → Bytes → List Bytes
  | 0, _ => []
  | count + 1, b => b.take size :: split size count (b.drop size)

/-- All pieces of `size` octets, without a shorter rest. -/
def splitAll (size : Nat) (b : Bytes) : List Bytes :=
  split size (b.length / size) b

/-- The string as words of `width` bits, the most significant octet of each first. -/
def words (width : Nat) (b : Bytes) : List (BitVec width) :=
  (splitAll (width / 8) b).map fun octets => BitVec.ofNat width octets.value

end RemoteAttestation.Block
