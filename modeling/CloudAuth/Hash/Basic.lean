import CloudAuth.Codec.Bytes

/-!
# Iterated hash functions

A hash function that absorbs its input block by block: a chaining value, a block size, and what one
block does to the chaining value. The message is padded by one set bit, zeros and its length in bits.
-/

namespace CloudAuth

/-- An iterated hash function. -/
structure Hash where
  /-- The type of the chaining value. -/
  Chain : Type
  /-- The chaining value before the first block. -/
  initial : Chain
  /-- The count of bytes in a block. -/
  blockSize : Nat
  /-- The count of bytes in which the length is written. -/
  lengthSize : Nat
  /-- What one block does to the chaining value. -/
  compress : Chain → Bytes → Chain
  /-- The digest that a chaining value stands for. -/
  output : Chain → Bytes

namespace Hash

/-- The padding after a message of `length` bytes. -/
def padding (h : Hash) (length : Nat) : Bytes :=
  let used := length + 1 + h.lengthSize
  0x80 :: List.replicate ((h.blockSize - used % h.blockSize) % h.blockSize) 0 ++
    Bytes.ofNat h.lengthSize (8 * length)

/-- Absorbs the first `count` blocks of some bytes. -/
def absorbBlocks (h : Hash) : (count : Nat) → h.Chain → Bytes → h.Chain
  | 0, chain, _ => chain
  | count + 1, chain, bytes =>
    absorbBlocks h count (h.compress chain (bytes.take h.blockSize)) (bytes.drop h.blockSize)

/-- Absorbs all whole blocks of some bytes. -/
def absorb (h : Hash) (chain : h.Chain) (bytes : Bytes) : h.Chain :=
  h.absorbBlocks (bytes.length / h.blockSize) chain bytes

/-- The digest of a message that follows `before` bytes already absorbed. -/
def finish (h : Hash) (chain : h.Chain) (before : Nat) (message : Bytes) : Bytes :=
  h.output (h.absorb chain (message ++ h.padding (before + message.length)))

/-- The digest of a message. -/
def digest (h : Hash) (message : Bytes) : Bytes := h.finish h.initial 0 message

end Hash

end CloudAuth
