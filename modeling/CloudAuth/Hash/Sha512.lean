import CloudAuth.Hash.Basic
import CloudAuth.Hash.Word64

/-!
# SHA-512 and SHA-384

The hash functions over words of 64 bits. They differ in the first chaining value, and SHA-384 gives
only the first six words out.
-/

namespace CloudAuth

namespace Sha512

/-- The chaining value: eight words. -/
structure Chain where
  /-- First word. -/
  a : UInt64
  /-- Second word. -/
  b : UInt64
  /-- Third word. -/
  c : UInt64
  /-- Fourth word. -/
  d : UInt64
  /-- Fifth word. -/
  e : UInt64
  /-- Sixth word. -/
  f : UInt64
  /-- Seventh word. -/
  g : UInt64
  /-- Eighth word. -/
  h : UInt64

/-- The constant of each round. -/
def constants : List UInt64 :=
  [0x428A2F98D728AE22, 0x7137449123EF65CD, 0xB5C0FBCFEC4D3B2F, 0xE9B5DBA58189DBBC,
   0x3956C25BF348B538, 0x59F111F1B605D019, 0x923F82A4AF194F9B, 0xAB1C5ED5DA6D8118,
   0xD807AA98A3030242, 0x12835B0145706FBE, 0x243185BE4EE4B28C, 0x550C7DC3D5FFB4E2,
   0x72BE5D74F27B896F, 0x80DEB1FE3B1696B1, 0x9BDC06A725C71235, 0xC19BF174CF692694,
   0xE49B69C19EF14AD2, 0xEFBE4786384F25E3, 0x0FC19DC68B8CD5B5, 0x240CA1CC77AC9C65,
   0x2DE92C6F592B0275, 0x4A7484AA6EA6E483, 0x5CB0A9DCBD41FBD4, 0x76F988DA831153B5,
   0x983E5152EE66DFAB, 0xA831C66D2DB43210, 0xB00327C898FB213F, 0xBF597FC7BEEF0EE4,
   0xC6E00BF33DA88FC2, 0xD5A79147930AA725, 0x06CA6351E003826F, 0x142929670A0E6E70,
   0x27B70A8546D22FFC, 0x2E1B21385C26C926, 0x4D2C6DFC5AC42AED, 0x53380D139D95B3DF,
   0x650A73548BAF63DE, 0x766A0ABB3C77B2A8, 0x81C2C92E47EDAEE6, 0x92722C851482353B,
   0xA2BFE8A14CF10364, 0xA81A664BBC423001, 0xC24B8B70D0F89791, 0xC76C51A30654BE30,
   0xD192E819D6EF5218, 0xD69906245565A910, 0xF40E35855771202A, 0x106AA07032BBD1B8,
   0x19A4C116B8D2D0C8, 0x1E376C085141AB53, 0x2748774CDF8EEB99, 0x34B0BCB5E19B48A8,
   0x391C0CB3C5C95A63, 0x4ED8AA4AE3418ACB, 0x5B9CCA4F7763E373, 0x682E6FF3D6B2B8A3,
   0x748F82EE5DEFB2FC, 0x78A5636F43172F60, 0x84C87814A1F0AB72, 0x8CC702081A6439EC,
   0x90BEFFFA23631E28, 0xA4506CEBDE82BDE9, 0xBEF9A3F7B2C67915, 0xC67178F2E372532B,
   0xCA273ECEEA26619C, 0xD186B8C721C0C207, 0xEADA7DD6CDE0EB1E, 0xF57D4F7FEE6ED178,
   0x06F067AA72176FBA, 0x0A637DC5A2C898A6, 0x113F9804BEF90DAE, 0x1B710B35131C471B,
   0x28DB77F523047D84, 0x32CAAB7B40C72493, 0x3C9EBE0A15C9BEBC, 0x431D67C49C100D4C,
   0x4CC5D4BECB3E42B6, 0x597F299CFC657E2A, 0x5FCB6FAB3AD6FAEC, 0x6C44198C4A475817]

/-- The mixing of the second last word into the schedule. -/
def smallSigma1 (x : UInt64) : UInt64 :=
  Word64.rotateRight x 19 ^^^ Word64.rotateRight x 61 ^^^ (x >>> 6)

/-- The mixing of the fifteenth last word into the schedule. -/
def smallSigma0 (x : UInt64) : UInt64 :=
  Word64.rotateRight x 1 ^^^ Word64.rotateRight x 8 ^^^ (x >>> 7)

/-- The mixing of the first word in a round. -/
def bigSigma0 (x : UInt64) : UInt64 :=
  Word64.rotateRight x 28 ^^^ Word64.rotateRight x 34 ^^^ Word64.rotateRight x 39

/-- The mixing of the fifth word in a round. -/
def bigSigma1 (x : UInt64) : UInt64 :=
  Word64.rotateRight x 14 ^^^ Word64.rotateRight x 18 ^^^ Word64.rotateRight x 41

/-- The schedule, extended by `count` words. -/
def extend : (count : Nat) → Array UInt64 → Array UInt64
  | 0, w => w
  | count + 1, w =>
    let i := w.size
    let x := smallSigma1 (w.getD (i - 2) 0) + w.getD (i - 7) 0 + smallSigma0 (w.getD (i - 15) 0) +
      w.getD (i - 16) 0
    extend count (w.push x)

/-- One round, with the sum of its constant and its word of the schedule. -/
def round (s : Chain) (x : UInt64) : Chain :=
  let t1 := s.h + bigSigma1 s.e + ((s.e &&& s.f) ^^^ (~~~s.e &&& s.g)) + x
  let t2 := bigSigma0 s.a + ((s.a &&& s.b) ^^^ (s.a &&& s.c) ^^^ (s.b &&& s.c))
  ⟨t1 + t2, s.a, s.b, s.c, s.d + t1, s.e, s.f, s.g⟩

/-- The rounds of the remaining constants and words. -/
def rounds : List UInt64 → List UInt64 → Chain → Chain
  | k :: ks, w :: ws, s => rounds ks ws (round s (k + w))
  | _, _, s => s

/-- What one block does to the chaining value. -/
def compress (s : Chain) (block : Bytes) : Chain :=
  let t := rounds constants (extend 64 (Word64.ofBytes block).toArray).toList s
  ⟨s.a + t.a, s.b + t.b, s.c + t.c, s.d + t.d, s.e + t.e, s.f + t.f, s.g + t.g, s.h + t.h⟩

/-- The digest of a chaining value, of all eight words. -/
def output (s : Chain) : Bytes := Word64.toBytes [s.a, s.b, s.c, s.d, s.e, s.f, s.g, s.h]

/-- The digest of a chaining value, of its first six words. -/
def shortOutput (s : Chain) : Bytes := Word64.toBytes [s.a, s.b, s.c, s.d, s.e, s.f]

end Sha512

/-- SHA-512. -/
def sha512 : Hash where
  Chain := Sha512.Chain
  initial :=
    ⟨0x6A09E667F3BCC908, 0xBB67AE8584CAA73B, 0x3C6EF372FE94F82B, 0xA54FF53A5F1D36F1,
      0x510E527FADE682D1, 0x9B05688C2B3E6C1F, 0x1F83D9ABFB41BD6B, 0x5BE0CD19137E2179⟩
  blockSize := 128
  lengthSize := 16
  compress := Sha512.compress
  output := Sha512.output

/-- SHA-384. -/
def sha384 : Hash where
  Chain := Sha512.Chain
  initial :=
    ⟨0xCBBB9D5DC1059ED8, 0x629A292A367CD507, 0x9159015A3070DD17, 0x152FECD8F70E5939,
      0x67332667FFC00B31, 0x8EB44A8768581511, 0xDB0C2E0D64F98FA7, 0x47B5481DBEFA4FA4⟩
  blockSize := 128
  lengthSize := 16
  compress := Sha512.compress
  output := Sha512.shortOutput

end CloudAuth
