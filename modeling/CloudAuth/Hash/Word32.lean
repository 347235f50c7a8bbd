import CloudAuth.Codec.Bytes

/-!
# Words of 32 bits

Rotation, and the passage between words and bytes with the most significant byte first.
-/

namespace CloudAuth.Word32

/-- The word rotated to the left. -/
def rotateLeft (x n : UInt32) : UInt32 := (x <<< n) ||| (x >>> (32 - n))

/-- The word rotated to the right. -/
def rotateRight (x n : UInt32) : UInt32 := (x >>> n) ||| (x <<< (32 - n))

/-- The word of four bytes. -/
def ofFour (a b c d : UInt8) : UInt32 :=
  (a.toUInt32 <<< 24) ||| (b.toUInt32 <<< 16) ||| (c.toUInt32 <<< 8) ||| d.toUInt32

/-- The words of some bytes. -/
def ofBytes : Bytes → List UInt32
  | a :: b :: c :: d :: rest => ofFour a b c d :: ofBytes rest
  | _ => []

/-- The four bytes of a word. -/
def bytes (x : UInt32) : Bytes :=
  [(x >>> 24).toUInt8, (x >>> 16).toUInt8, (x >>> 8).toUInt8, x.toUInt8]

/-- The bytes of some words. -/
def toBytes (words : List UInt32) : Bytes := words.flatMap bytes

end CloudAuth.Word32
