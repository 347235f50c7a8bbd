import CloudAuth.Hash.Hmac

/-!
# Password-based key derivation

A key of any length from a password and a salt: each block of the key is the exclusive or of a chain
of message codes under the password.
-/

namespace CloudAuth.Pbkdf2

/-- The exclusive or of `sum` with the next `count` links of the chain after `link`. -/
def chain {h : Hash} (keyed : KeyedHash h) : (count : Nat) → (link sum : Bytes) → Bytes
  | 0, _, sum => sum
  | count + 1, link, sum =>
    let next := keyed.code link
    chain keyed count next (Bytes.xor sum next)

/-- Block `index` of the key. -/
def block {h : Hash} (keyed : KeyedHash h) (salt : Bytes) (iterations index : Nat) : Bytes :=
  let first := keyed.code (salt ++ Bytes.ofNat 4 index)
  chain keyed (iterations - 1) first first

/-- The blocks of the key from block `index` on, `count` of them. -/
def blocks {h : Hash} (keyed : KeyedHash h) (salt : Bytes) (iterations : Nat) :
    (count index : Nat) → Bytes
  | 0, _ => []
  | count + 1, index =>
    block keyed salt iterations index ++ blocks keyed salt iterations count (index + 1)

/-- The key of `length` bytes. -/
def derive (h : Hash) (password salt : Bytes) (iterations length : Nat) : Bytes :=
  let keyed := KeyedHash.ofKey h password
  let size := (h.output h.initial).length
  (blocks keyed salt iterations ((length + size - 1) / size) 1).take length

end CloudAuth.Pbkdf2
