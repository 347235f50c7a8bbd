import CloudAuth.Hash.Word64

/-!
# SHAKE256

The sponge whose output can have any length. Its state is twenty-five words, the word in column `x`
and row `y` at place `x + 5 y`.
-/

namespace CloudAuth.Shake256

/-- The constant of each round. -/
def roundConstants : List UInt64 :=
  [0x0000000000000001, 0x0000000000008082, 0x800000000000808A, 0x8000000080008000,
   0x000000000000808B, 0x0000000080000001, 0x8000000080008081, 0x8000000000008009,
   0x000000000000008A, 0x0000000000000088, 0x0000000080008009, 0x000000008000000A,
   0x000000008000808B, 0x800000000000008B, 0x8000000000008089, 0x8000000000008003,
   0x8000000000008002, 0x8000000000000080, 0x000000000000800A, 0x800000008000000A,
   0x8000000080008081, 0x8000000000008080, 0x0000000080000001, 0x8000000080008008]

/-- The rotation of the word at each place. -/
def rotations : Array UInt64 :=
  #[0, 1, 62, 28, 27, 36, 44, 6, 55, 20, 3, 10, 43, 25, 39, 41, 45, 15, 21, 8, 18, 2, 61, 56, 14]

/-- The array of twenty-five words given by place. -/
def build (word : Nat → UInt64) : Array UInt64 := ((List.range 25).map word).toArray

/-- The exclusive or of a column. -/
def parity (s : Array UInt64) (x : Nat) : UInt64 :=
  s.getD x 0 ^^^ s.getD (x + 5) 0 ^^^ s.getD (x + 10) 0 ^^^ s.getD (x + 15) 0 ^^^ s.getD (x + 20) 0

/-- Mixes each word with the parities of the columns beside it. -/
def theta (s : Array UInt64) : Array UInt64 :=
  let parities := ((List.range 5).map (parity s)).toArray
  build fun i =>
    s.getD i 0 ^^^ parities.getD ((i + 4) % 5) 0 ^^^
      Word64.rotateLeft (parities.getD ((i + 1) % 5) 0) 1

/-- Rotates the words and moves them to their new places. -/
def rhoPi (s : Array UInt64) : Array UInt64 :=
  build fun i =>
    let source := (i % 5 + 3 * (i / 5)) % 5 + 5 * (i % 5)
    Word64.rotateLeft (s.getD source 0) (rotations.getD source 0)

/-- Mixes each word with the next two of its row. -/
def chi (s : Array UInt64) : Array UInt64 :=
  build fun i =>
    let row := 5 * (i / 5)
    s.getD i 0 ^^^ (~~~(s.getD (row + (i + 1) % 5) 0) &&& s.getD (row + (i + 2) % 5) 0)

/-- One round. -/
def round (s : Array UInt64) (constant : UInt64) : Array UInt64 :=
  let t := chi (rhoPi (theta s))
  t.setIfInBounds 0 (t.getD 0 0 ^^^ constant)

/-- The permutation of the state. -/
def permute (s : Array UInt64) : Array UInt64 := roundConstants.foldl round s

/-- The count of bytes absorbed and squeezed at a time. -/
def rate : Nat := 136

/-- The word with its bytes in the opposite order. -/
def swapBytes (w : UInt64) : UInt64 :=
  (Word64.bytes w).reverse.foldl (fun n b => (n <<< 8) ||| b.toUInt64) 0

/-- The words of some bytes, least significant byte first. -/
def wordsOf (bytes : Bytes) : List UInt64 := (Word64.ofBytes bytes).map swapBytes

/-- Absorbs one block. -/
def absorbBlock (s : Array UInt64) (block : Bytes) : Array UInt64 :=
  let words := (wordsOf block).toArray
  permute (build fun i => s.getD i 0 ^^^ words.getD i 0)

/-- Absorbs the first `count` blocks. -/
def absorb : (count : Nat) → Array UInt64 → Bytes → Array UInt64
  | 0, s, _ => s
  | count + 1, s, bytes => absorb count (absorbBlock s (bytes.take rate)) (bytes.drop rate)

/-- A message with its padding, which marks the function and the end of the last block. -/
def padded (message : Bytes) : Bytes :=
  let gap := rate - message.length % rate
  if gap = 1 then message ++ [0x9F]
  else message ++ 0x1F :: List.replicate (gap - 2) 0 ++ [0x80]

/-- The bytes that a state gives out at a time. -/
def squeezeBlock (s : Array UInt64) : Bytes :=
  (s.toList.flatMap fun w => (Word64.bytes w).reverse).take rate

/-- The output of `count` blocks. -/
def squeeze : (count : Nat) → Array UInt64 → Bytes
  | 0, _ => []
  | count + 1, s => squeezeBlock s ++ squeeze count (permute s)

/-- The first `length` bytes of the output for a message. -/
def digest (length : Nat) (message : Bytes) : Bytes :=
  let blocks := padded message
  (squeeze (length / rate + 1) (absorb (blocks.length / rate) (build fun _ => 0) blocks)).take length

end CloudAuth.Shake256
