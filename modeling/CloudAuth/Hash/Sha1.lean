import CloudAuth.Hash.Basic
import CloudAuth.Hash.Word32

/-!
# SHA-1

The hash function of certificate thumbprints: digests of twenty bytes.
-/

namespace CloudAuth

namespace Sha1

/-- The chaining value: five words. -/
structure Chain where
  /-- First word. -/
  a : UInt32
  /-- Second word. -/
  b : UInt32
  /-- Third word. -/
  c : UInt32
  /-- Fourth word. -/
  d : UInt32
  /-- Fifth word. -/
  e : UInt32

/-- The schedule, extended by `count` words. -/
def extend : (count : Nat) → Array UInt32 → Array UInt32
  | 0, w => w
  | count + 1, w =>
    let i := w.size
    let x := w.getD (i - 3) 0 ^^^ w.getD (i - 8) 0 ^^^ w.getD (i - 14) 0 ^^^ w.getD (i - 16) 0
    extend count (w.push (Word32.rotateLeft x 1))

/-- The mixing function and the constant of round `i`. -/
def mix (i : Nat) (b c d : UInt32) : UInt32 :=
  if i < 20 then ((b &&& c) ||| (~~~b &&& d)) + 0x5A827999
  else if i < 40 then (b ^^^ c ^^^ d) + 0x6ED9EBA1
  else if i < 60 then ((b &&& c) ||| (b &&& d) ||| (c &&& d)) + 0x8F1BBCDC
  else (b ^^^ c ^^^ d) + 0xCA62C1D6

/-- The rounds from round `i` on, one per word. -/
def rounds : (i : Nat) → List UInt32 → Chain → Chain
  | _, [], s => s
  | i, w :: rest, ⟨a, b, c, d, e⟩ =>
    rounds (i + 1) rest
      ⟨Word32.rotateLeft a 5 + mix i b c d + e + w, a, Word32.rotateLeft b 30, c, d⟩

/-- What one block does to the chaining value. -/
def compress (s : Chain) (block : Bytes) : Chain :=
  let t := rounds 0 (extend 64 (Word32.ofBytes block).toArray).toList s
  ⟨s.a + t.a, s.b + t.b, s.c + t.c, s.d + t.d, s.e + t.e⟩

/-- The digest of a chaining value. -/
def output (s : Chain) : Bytes := Word32.toBytes [s.a, s.b, s.c, s.d, s.e]

end Sha1

/-- SHA-1. -/
def sha1 : Hash where
  Chain := Sha1.Chain
  initial := ⟨0x67452301, 0xEFCDAB89, 0x98BADCFE, 0x10325476, 0xC3D2E1F0⟩
  blockSize := 64
  lengthSize := 8
  compress := Sha1.compress
  output := Sha1.output

end CloudAuth
