import CloudAuth.Codec.Bytes

/-!
# Chained blocks

Decryption of a chain of blocks: each decrypted block is combined with the encrypted block before it.
The text ends in padding, bytes that all give the count of padding bytes.
-/

namespace CloudAuth.Cbc

/-- Decrypts `count` blocks, after the encrypted block `previous`. -/
def decryptBlocks (decrypt : Bytes → Bytes) (size : Nat) : (count : Nat) → (previous text : Bytes) → Bytes
  | 0, _, _ => []
  | count + 1, previous, text =>
    Bytes.xor (decrypt (text.take size)) previous ++
      decryptBlocks decrypt size count (text.take size) (text.drop size)

/-- The text without its padding, which is from one byte up to a whole block. -/
def unpad? (size : Nat) (text : Bytes) : Option Bytes :=
  match text.getLast? with
  | none => none
  | some last =>
    let count := last.toNat
    if 0 < count ∧ count ≤ size ∧ count ≤ text.length ∧
        (text.drop (text.length - count)).all (· == last) then
      some (text.take (text.length - count))
    else none

/-- Decrypts a chain of whole blocks and takes the padding off. -/
def decrypt? (decrypt : Bytes → Bytes) (size : Nat) (start text : Bytes) : Option Bytes :=
  if text.isEmpty ∨ text.length % size ≠ 0 then none
  else unpad? size (decryptBlocks decrypt size (text.length / size) start text)

end CloudAuth.Cbc
