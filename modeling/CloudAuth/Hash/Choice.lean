import CloudAuth.Hash.Sha1
import CloudAuth.Hash.Sha256
import CloudAuth.Hash.Sha512

/-!
# The choice of a hash function

The hash functions that keys and codes of bundles can be derived with, by name.
-/

namespace CloudAuth

/-- One of the hash functions. -/
inductive HashChoice where
  /-- SHA-1. -/
  | sha1
  /-- SHA-256. -/
  | sha256
  /-- SHA-384. -/
  | sha384
  /-- SHA-512. -/
  | sha512
  deriving DecidableEq, Repr

/-- The function that is chosen. -/
def HashChoice.function : HashChoice → Hash
  | sha1 => CloudAuth.sha1
  | sha256 => CloudAuth.sha256
  | sha384 => CloudAuth.sha384
  | sha512 => CloudAuth.sha512

/-- The count of bytes in a digest. -/
def HashChoice.digestSize : HashChoice → Nat
  | sha1 => 20
  | sha256 => 32
  | sha384 => 48
  | sha512 => 64

end CloudAuth
