import CloudAuth.Hash.Basic

/-!
# Keyed hashing

A hash function keyed by hashing twice: the inner and the outer chaining values after the key block
are computed once for a key and serve every message.
-/

namespace CloudAuth

/-- A hash function with the key absorbed. -/
structure KeyedHash (h : Hash) where
  /-- The chaining value before the message. -/
  inner : h.Chain
  /-- The chaining value before the inner digest. -/
  outer : h.Chain

namespace KeyedHash

/-- The key as one block: a longer key is hashed first, a shorter one filled with zeros. -/
def keyBlock (h : Hash) (key : Bytes) : Bytes :=
  let short := if h.blockSize < key.length then h.digest key else key
  short ++ List.replicate (h.blockSize - short.length) 0

/-- The hash function keyed by `key`. -/
def ofKey (h : Hash) (key : Bytes) : KeyedHash h :=
  let block := keyBlock h key
  ⟨h.compress h.initial (block.map (· ^^^ 0x36)), h.compress h.initial (block.map (· ^^^ 0x5C))⟩

/-- The code of a message. -/
def code {h : Hash} (keyed : KeyedHash h) (message : Bytes) : Bytes :=
  h.finish keyed.outer h.blockSize (h.finish keyed.inner h.blockSize message)

end KeyedHash

/-- The code of a message under a key. -/
def hmac (h : Hash) (key message : Bytes) : Bytes := (KeyedHash.ofKey h key).code message

end CloudAuth
