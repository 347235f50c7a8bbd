import CloudAuth.Hash.Basic
import CloudAuth.Hash.Word32

/-!
# SHA-256

The hash function of signatures and of key derivation: digests of thirty-two bytes.
-/

namespace CloudAuth

namespace Sha256

/-- The chaining value: eight words. -/
structure Chain where
  /-- First word. -/
  a : UInt32
  /-- Second word. -/
  b : UInt32
  /-- Third word. -/
  c : UInt32
  /-- Fourth word. -/
  d : UInt32
  /-- Fifth word. -/
  e : UInt32
  /-- Sixth word. -/
  f : UInt32
  /-- Seventh word. -/
  g : UInt32
  /-- Eighth word. -/
  h : UInt32

/-- The constant of each round. -/
def constants : List UInt32 :=
  [0x428A2F98, 0x71374491, 0xB5C0FBCF, 0xE9B5DBA5, 0x3956C25B, 0x59F111F1, 0x923F82A4, 0xAB1C5ED5,
   0xD807AA98, 0x12835B01, 0x243185BE, 0x550C7DC3, 0x72BE5D74, 0x80DEB1FE, 0x9BDC06A7, 0xC19BF174,
   0xE49B69C1, 0xEFBE4786, 0x0FC19DC6, 0x240CA1CC, 0x2DE92C6F, 0x4A7484AA, 0x5CB0A9DC, 0x76F988DA,
   0x983E5152, 0xA831C66D, 0xB00327C8, 0xBF597FC7, 0xC6E00BF3, 0xD5A79147, 0x06CA6351, 0x14292967,
   0x27B70A85, 0x2E1B2138, 0x4D2C6DFC, 0x53380D13, 0x650A7354, 0x766A0ABB, 0x81C2C92E, 0x92722C85,
   0xA2BFE8A1, 0xA81A664B, 0xC24B8B70, 0xC76C51A3, 0xD192E819, 0xD6990624, 0xF40E3585, 0x106AA070,
   0x19A4C116, 0x1E376C08, 0x2748774C, 0x34B0BCB5, 0x391C0CB3, 0x4ED8AA4A, 0x5B9CCA4F, 0x682E6FF3,
   0x748F82EE, 0x78A5636F, 0x84C87814, 0x8CC70208, 0x90BEFFFA, 0xA4506CEB, 0xBEF9A3F7, 0xC67178F2]

/-- The mixing of the second last word into the schedule. -/
def smallSigma1 (x : UInt32) : UInt32 :=
  Word32.rotateRight x 17 ^^^ Word32.rotateRight x 19 ^^^ (x >>> 10)

/-- The mixing of the fifteenth last word into the schedule. -/
def smallSigma0 (x : UInt32) : UInt32 :=
  Word32.rotateRight x 7 ^^^ Word32.rotateRight x 18 ^^^ (x >>> 3)

/-- The mixing of the first word in a round. -/
def bigSigma0 (x : UInt32) : UInt32 :=
  Word32.rotateRight x 2 ^^^ Word32.rotateRight x 13 ^^^ Word32.rotateRight x 22

/-- The mixing of the fifth word in a round. -/
def bigSigma1 (x : UInt32) : UInt32 :=
  Word32.rotateRight x 6 ^^^ Word32.rotateRight x 11 ^^^ Word32.rotateRight x 25

/-- The schedule, extended by `count` words. -/
def extend : (count : Nat) → Array UInt32 → Array UInt32
  | 0, w => w
  | count + 1, w =>
    let i := w.size
    let x := smallSigma1 (w.getD (i - 2) 0) + w.getD (i - 7) 0 + smallSigma0 (w.getD (i - 15) 0) +
      w.getD (i - 16) 0
    extend count (w.push x)

/-- One round, with the sum of its constant and its word of the schedule. -/
def round (s : Chain) (x : UInt32) : Chain :=
  let t1 := s.h + bigSigma1 s.e + ((s.e &&& s.f) ^^^ (~~~s.e &&& s.g)) + x
  let t2 := bigSigma0 s.a + ((s.a &&& s.b) ^^^ (s.a &&& s.c) ^^^ (s.b &&& s.c))
  ⟨t1 + t2, s.a, s.b, s.c, s.d + t1, s.e, s.f, s.g⟩

/-- The rounds of the remaining constants and words. -/
def rounds : List UInt32 → List UInt32 → Chain → Chain
  | k :: ks, w :: ws, s => rounds ks ws (round s (k + w))
  | _, _, s => s

/-- What one block does to the chaining value. -/
def compress (s : Chain) (block : Bytes) : Chain :=
  let t := rounds constants (extend 48 (Word32.ofBytes block).toArray).toList s
  ⟨s.a + t.a, s.b + t.b, s.c + t.c, s.d + t.d, s.e + t.e, s.f + t.f, s.g + t.g, s.h + t.h⟩

/-- The digest of a chaining value. -/
def output (s : Chain) : Bytes := Word32.toBytes [s.a, s.b, s.c, s.d, s.e, s.f, s.g, s.h]

end Sha256

/-- SHA-256. -/
def sha256 : Hash where
  Chain := Sha256.Chain
  initial :=
    ⟨0x6A09E667, 0xBB67AE85, 0x3C6EF372, 0xA54FF53A,
      0x510E527F, 0x9B05688C, 0x1F83D9AB, 0x5BE0CD19⟩
  blockSize := 64
  lengthSize := 8
  compress := Sha256.compress
  output := Sha256.output

end CloudAuth
