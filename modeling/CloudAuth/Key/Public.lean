import CloudAuth.Key.Rsa
import CloudAuth.Text.Printable

/-!
# Public keys

The public keys that certificates carry. A certificate belongs to a private key when its public key
is the one of the private key.
-/

namespace CloudAuth

open Asn1

/-- A public key. -/
inductive PublicKey where
  /-- An RSA key. -/
  | rsa (key : RsaPublicKey)
  /-- A point on the curve of that name. -/
  | elliptic (curve point : Bytes)
  /-- A point on the twisted curve over the smaller field. -/
  | ed25519 (point : Bytes)
  /-- A point on the twisted curve over the larger field. -/
  | ed448 (point : Bytes)
  /-- A power of `g` modulo `p`, in a group of order `q`. -/
  | dsa (p q g power : Nat)
  /-- A key of another kind, which has a name, in its written form. -/
  | other (kind : Text.Wording) (bytes : Bytes)
  deriving DecidableEq, Repr

namespace PublicKey

/-- The key of an algorithm's name, its parameters and the bytes of the key. -/
def ofParts? (algorithm : Bytes) (parameters : List Element) (bytes : Bytes) : Option PublicKey :=
  if algorithm = Identifier.rsa then (RsaPublicKey.ofBytes? bytes).map rsa
  else if algorithm = Identifier.ed25519 then some (ed25519 bytes)
  else if algorithm = Identifier.ed448 then some (ed448 bytes)
  else
    match parameters with
    | [parameter] =>
      if algorithm = Identifier.ellipticKey then
        parameter.identifier?.map fun curve => elliptic curve bytes
      else if algorithm = Identifier.dsa then do
        match ← (← parameter.sequence? .distinguished).mapM Element.natural? with
        | [p, q, g] => return dsa p q g (← (← Element.ofBytes? .distinguished bytes).natural?)
        | _ => none
      else none
    | _ => none

/-- Reads the element of a key: the algorithm, and the key as a bit string. -/
def ofElement? (e : Element) : Option PublicKey := do
  match ← e.sequence? .distinguished with
  | [algorithm, bits] =>
    match ← algorithm.sequence? .distinguished with
    | name :: parameters => ofParts? (← name.identifier?) parameters (← bits.bits?)
    | [] => none
  | _ => none

end PublicKey

end CloudAuth
