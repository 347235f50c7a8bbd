import CloudAuth.Codec.Unicode
import CloudAuth.Hash.Basic

/-!
# Passphrases of bundles

The secret that a bundle is protected with, and the key derivation that only bundles use: the
passphrase in 16-bit units and the salt are stretched to whole blocks, hashed many times, and changed
by the digest before each further piece of the key.
-/

namespace CloudAuth

/-- What a bundle is opened with. -/
inductive Passphrase where
  /-- Nothing at all. -/
  | none
  /-- A text, which may be empty. -/
  | text (s : String)
  deriving DecidableEq, Repr

namespace Passphrase

/-- The passphrases that a secret stands for, in the order in which they are tried. No secret and the empty
one stand for nothing and for the empty text, and a secret that is no text stands for none. -/
def candidates : Option Bytes → List Passphrase
  | some (b :: secret) =>
    ((Unicode.decodeUtf8 (b :: secret)).map fun cs => text (String.ofList cs)).toList
  | _ => [none, text ""]

/-- The bytes for keys that are derived by chained message codes. -/
def plainBytes : Passphrase → Bytes
  | none => []
  | text s => Unicode.utf8 s

/-- The bytes for the derivation below: 16-bit units, with a zero unit at the end. -/
def unitBytes : Passphrase → Bytes
  | none => []
  | text s => Unicode.utf16 s ++ [0, 0]

/-- What a derived key is for. -/
inductive Purpose where
  /-- A key of a cipher. -/
  | key
  /-- The start value of a cipher. -/
  | start
  /-- A key of a message code. -/
  | code
  deriving DecidableEq, Repr

/-- The byte that stands for a purpose. -/
def Purpose.mark : Purpose → UInt8
  | key => 1
  | start => 2
  | code => 3

/-- The first `length` bytes of some bytes repeated; there are none to repeat if there are none. -/
def repeated (length : Nat) (bytes : Bytes) : Bytes :=
  if bytes.isEmpty then []
  else (List.replicate (length / bytes.length + 1) bytes).flatten.take length

/-- Some bytes repeated to the next whole number of blocks. -/
def stretched (size : Nat) (bytes : Bytes) : Bytes :=
  repeated (size * ((bytes.length + size - 1) / size)) bytes

/-- The digest of a digest, `count` times over. -/
def rehashed (h : Hash) : (count : Nat) → Bytes → Bytes
  | 0, bytes => bytes
  | count + 1, bytes => rehashed h count (h.digest bytes)

/-- Adds `increment` and one to each of `count` blocks, as numbers without overflow. -/
def addToBlocks (size increment : Nat) : (count : Nat) → Bytes → Bytes
  | 0, _ => []
  | count + 1, bytes =>
    Bytes.ofNat size (Bytes.toNat (bytes.take size) + increment + 1) ++
      addToBlocks size increment count (bytes.drop size)

/-- The next `count` pieces of the key, from the stretched salt and passphrase. -/
def pieces (h : Hash) (purpose : Purpose) (iterations : Nat) : (count : Nat) → Bytes → Bytes
  | 0, _ => []
  | count + 1, input =>
    let digest := rehashed h iterations (List.replicate h.blockSize purpose.mark ++ input)
    let increment := Bytes.toNat (repeated h.blockSize digest)
    digest ++ pieces h purpose iterations count
      (addToBlocks h.blockSize increment (input.length / h.blockSize) input)

/-- The key of `length` bytes. -/
def derive (h : Hash) (purpose : Purpose) (passphrase : Passphrase) (salt : Bytes)
    (iterations length : Nat) : Bytes :=
  let input := stretched h.blockSize salt ++ stretched h.blockSize passphrase.unitBytes
  let size := (h.output h.initial).length
  (pieces h purpose iterations ((length + size - 1) / size) input).take length

end Passphrase

end CloudAuth
