import CloudAuth.Codec.Bytes

/-!
# Triple DES

Decryption of one block of eight bytes under a key of twenty-four bytes, three keys of the simple
cipher used one after the other. Blocks and keys are arrays of bits, the most significant bit first;
the tables give, for each place of the result, the place that its bit comes from.
-/

namespace CloudAuth.TripleDes

/-- A sequence of bits. -/
abbrev Bits := Array Bool

/-- The bits of some bytes. -/
def bitsOf (bytes : Bytes) : Bits :=
  (bytes.flatMap fun b => (List.range 8).map fun i => (b >>> UInt8.ofNat (7 - i)) &&& 1 == 1).toArray

/-- The number of some bits. -/
def numberOf (bits : List Bool) : Nat := bits.foldl (fun n b => 2 * n + b.toNat) 0

/-- The bits of a number below `2 ^ width`. -/
def bitsOfNumber (width n : Nat) : List Bool :=
  (List.range width).map fun i => n.testBit (width - 1 - i)

/-- The bytes of some bits, `count` of them. -/
def bytesOf : (count : Nat) → List Bool → Bytes
  | 0, _ => []
  | count + 1, bits => UInt8.ofNat (numberOf (bits.take 8)) :: bytesOf count (bits.drop 8)

/-- The bits that a table picks, with places counted from one. -/
def pick (places : List Nat) (bits : Bits) : Bits :=
  (places.map fun i => bits.getD (i - 1) false).toArray

/-- The exclusive or of two sequences. -/
def xor (a b : Bits) : Bits := Array.zipWith (· != ·) a b

/-- The permutation of a block before the rounds. -/
def initialPlaces : List Nat :=
  [58, 50, 42, 34, 26, 18, 10, 2, 60, 52, 44, 36, 28, 20, 12, 4,
   62, 54, 46, 38, 30, 22, 14, 6, 64, 56, 48, 40, 32, 24, 16, 8,
   57, 49, 41, 33, 25, 17, 9, 1, 59, 51, 43, 35, 27, 19, 11, 3,
   61, 53, 45, 37, 29, 21, 13, 5, 63, 55, 47, 39, 31, 23, 15, 7]

/-- The permutation of a block after the rounds. -/
def finalPlaces : List Nat :=
  [40, 8, 48, 16, 56, 24, 64, 32, 39, 7, 47, 15, 55, 23, 63, 31,
   38, 6, 46, 14, 54, 22, 62, 30, 37, 5, 45, 13, 53, 21, 61, 29,
   36, 4, 44, 12, 52, 20, 60, 28, 35, 3, 43, 11, 51, 19, 59, 27,
   34, 2, 42, 10, 50, 18, 58, 26, 33, 1, 41, 9, 49, 17, 57, 25]

/-- The expansion of half a block. -/
def expansionPlaces : List Nat :=
  [32, 1, 2, 3, 4, 5, 4, 5, 6, 7, 8, 9, 8, 9, 10, 11, 12, 13, 12, 13, 14, 15, 16, 17,
   16, 17, 18, 19, 20, 21, 20, 21, 22, 23, 24, 25, 24, 25, 26, 27, 28, 29, 28, 29, 30, 31, 32, 1]

/-- The permutation after the substitution. -/
def mixPlaces : List Nat :=
  [16, 7, 20, 21, 29, 12, 28, 17, 1, 15, 23, 26, 5, 18, 31, 10,
   2, 8, 24, 14, 32, 27, 3, 9, 19, 13, 30, 6, 22, 11, 4, 25]

/-- The first half of the key bits. -/
def leftKeyPlaces : List Nat :=
  [57, 49, 41, 33, 25, 17, 9, 1, 58, 50, 42, 34, 26, 18,
   10, 2, 59, 51, 43, 35, 27, 19, 11, 3, 60, 52, 44, 36]

/-- The second half of the key bits. -/
def rightKeyPlaces : List Nat :=
  [63, 55, 47, 39, 31, 23, 15, 7, 62, 54, 46, 38, 30, 22,
   14, 6, 61, 53, 45, 37, 29, 21, 13, 5, 28, 20, 12, 4]

/-- The choice of a round key from both halves. -/
def roundKeyPlaces : List Nat :=
  [14, 17, 11, 24, 1, 5, 3, 28, 15, 6, 21, 10, 23, 19, 12, 4, 26, 8, 16, 7, 27, 20, 13, 2,
   41, 52, 31, 37, 47, 55, 30, 40, 51, 45, 33, 48, 44, 49, 39, 56, 34, 53, 46, 42, 50, 36, 29, 32]

/-- By how many places the halves of the key turn before each round. -/
def turns : List Nat := [1, 1, 2, 2, 2, 2, 2, 2, 1, 2, 2, 2, 2, 2, 2, 1]

/-- The eight substitution tables, each of four rows of sixteen. -/
def substitutions : List (Array Nat) :=
  [#[14, 4, 13, 1, 2, 15, 11, 8, 3, 10, 6, 12, 5, 9, 0, 7,
     0, 15, 7, 4, 14, 2, 13, 1, 10, 6, 12, 11, 9, 5, 3, 8,
     4, 1, 14, 8, 13, 6, 2, 11, 15, 12, 9, 7, 3, 10, 5, 0,
     15, 12, 8, 2, 4, 9, 1, 7, 5, 11, 3, 14, 10, 0, 6, 13],
   #[15, 1, 8, 14, 6, 11, 3, 4, 9, 7, 2, 13, 12, 0, 5, 10,
     3, 13, 4, 7, 15, 2, 8, 14, 12, 0, 1, 10, 6, 9, 11, 5,
     0, 14, 7, 11, 10, 4, 13, 1, 5, 8, 12, 6, 9, 3, 2, 15,
     13, 8, 10, 1, 3, 15, 4, 2, 11, 6, 7, 12, 0, 5, 14, 9],
   #[10, 0, 9, 14, 6, 3, 15, 5, 1, 13, 12, 7, 11, 4, 2, 8,
     13, 7, 0, 9, 3, 4, 6, 10, 2, 8, 5, 14, 12, 11, 15, 1,
     13, 6, 4, 9, 8, 15, 3, 0, 11, 1, 2, 12, 5, 10, 14, 7,
     1, 10, 13, 0, 6, 9, 8, 7, 4, 15, 14, 3, 11, 5, 2, 12],
   #[7, 13, 14, 3, 0, 6, 9, 10, 1, 2, 8, 5, 11, 12, 4, 15,
     13, 8, 11, 5, 6, 15, 0, 3, 4, 7, 2, 12, 1, 10, 14, 9,
     10, 6, 9, 0, 12, 11, 7, 13, 15, 1, 3, 14, 5, 2, 8, 4,
     3, 15, 0, 6, 10, 1, 13, 8, 9, 4, 5, 11, 12, 7, 2, 14],
   #[2, 12, 4, 1, 7, 10, 11, 6, 8, 5, 3, 15, 13, 0, 14, 9,
     14, 11, 2, 12, 4, 7, 13, 1, 5, 0, 15, 10, 3, 9, 8, 6,
     4, 2, 1, 11, 10, 13, 7, 8, 15, 9, 12, 5, 6, 3, 0, 14,
     11, 8, 12, 7, 1, 14, 2, 13, 6, 15, 0, 9, 10, 4, 5, 3],
   #[12, 1, 10, 15, 9, 2, 6, 8, 0, 13, 3, 4, 14, 7, 5, 11,
     10, 15, 4, 2, 7, 12, 9, 5, 6, 1, 13, 14, 0, 11, 3, 8,
     9, 14, 15, 5, 2, 8, 12, 3, 7, 0, 4, 10, 1, 13, 11, 6,
     4, 3, 2, 12, 9, 5, 15, 10, 11, 14, 1, 7, 6, 0, 8, 13],
   #[4, 11, 2, 14, 15, 0, 8, 13, 3, 12, 9, 7, 5, 10, 6, 1,
     13, 0, 11, 7, 4, 9, 1, 10, 14, 3, 5, 12, 2, 15, 8, 6,
     1, 4, 11, 13, 12, 3, 7, 14, 10, 15, 6, 8, 0, 5, 9, 2,
     6, 11, 13, 8, 1, 4, 10, 7, 9, 5, 0, 15, 14, 2, 3, 12],
   #[13, 2, 8, 4, 6, 15, 11, 1, 10, 9, 3, 14, 5, 0, 12, 7,
     1, 15, 13, 8, 10, 3, 7, 4, 12, 5, 6, 11, 0, 14, 9, 2,
     7, 11, 4, 1, 9, 12, 14, 2, 0, 6, 10, 13, 15, 3, 5, 8,
     2, 1, 14, 7, 4, 10, 8, 13, 15, 12, 9, 0, 3, 5, 6, 11]]

/-- Turns a sequence to the left. -/
def turn (n : Nat) (bits : List Bool) : List Bool := bits.drop n ++ bits.take n

/-- The round keys of the remaining turns. -/
def roundKeysFrom : List Nat → (left right : List Bool) → List Bits
  | [], _, _ => []
  | n :: rest, left, right =>
    pick roundKeyPlaces (turn n left ++ turn n right).toArray ::
      roundKeysFrom rest (turn n left) (turn n right)

/-- The round keys of a simple key of eight bytes, in the order of encryption. -/
def roundKeys (key : Bytes) : List Bits :=
  roundKeysFrom turns (pick leftKeyPlaces (bitsOf key)).toList
    (pick rightKeyPlaces (bitsOf key)).toList

/-- Substitutes six bits by four, table by table. -/
def substitute : List (Array Nat) → List Bool → List Bool
  | table :: tables, a :: b :: c :: d :: e :: f :: rest =>
    bitsOfNumber 4 (table.getD (16 * numberOf [a, f] + numberOf [b, c, d, e]) 0) ++
      substitute tables rest
  | _, _ => []

/-- What a round adds to the other half. -/
def mix (half key : Bits) : Bits :=
  pick mixPlaces (substitute substitutions (xor (pick expansionPlaces half) key).toList).toArray

/-- The rounds, with the halves exchanged after each. -/
def rounds : List Bits → (left right : Bits) → Bits × Bits
  | [], left, right => (left, right)
  | key :: keys, left, right => rounds keys right (xor left (mix right key))

/-- The simple cipher with the given round keys. -/
def applyKeys (keys : List Bits) (block : Bits) : Bits :=
  let start := pick initialPlaces block
  let (left, right) := rounds keys (start.extract 0 32) (start.extract 32 64)
  pick finalPlaces (right ++ left)

/-- The round keys of the three passes of decryption. -/
structure Keys where
  /-- Decryption under the last key. -/
  first : List Bits
  /-- Encryption under the middle key. -/
  second : List Bits
  /-- Decryption under the first key. -/
  third : List Bits

/-- The passes of decryption under a key of twenty-four bytes. -/
def Keys.ofBytes (key : Bytes) : Keys where
  first := (roundKeys (key.drop 16)).reverse
  second := roundKeys ((key.drop 8).take 8)
  third := (roundKeys (key.take 8)).reverse

/-- Decrypts one block. -/
def decryptBlock (keys : Keys) (block : Bytes) : Bytes :=
  bytesOf 8 (applyKeys keys.third (applyKeys keys.second (applyKeys keys.first (bitsOf block)))).toList

end CloudAuth.TripleDes
