import CloudAuth.Asn1.Identifier
import CloudAuth.Asn1.Value
import CloudAuth.Hash.Sha256
import CloudAuth.Number.Modular

/-!
# RSA

RSA keys, their written form as a sequence of numbers, and signatures: the digest of the message is
put behind a name of the hash function and a padding, and raised to the private exponent. A signature
is checked by raising it to the public exponent and comparing with the padded digest.
-/

namespace CloudAuth

open Asn1

/-- A public key. -/
structure RsaPublicKey where
  /-- The product of the primes. -/
  modulus : Nat
  /-- The exponent of the public operation. -/
  exponent : Nat
  deriving DecidableEq, Repr

/-- A private key. -/
structure RsaPrivateKey where
  /-- The product of the primes. -/
  modulus : Nat
  /-- The exponent of the public operation. -/
  publicExponent : Nat
  /-- The exponent of the private operation. -/
  privateExponent : Nat
  /-- The first prime. -/
  prime1 : Nat
  /-- The second prime. -/
  prime2 : Nat
  /-- The private exponent modulo the first prime less one. -/
  exponent1 : Nat
  /-- The private exponent modulo the second prime less one. -/
  exponent2 : Nat
  /-- The inverse of the second prime modulo the first. -/
  coefficient : Nat
  deriving DecidableEq, Repr

namespace RsaPublicKey

/-- Reads a public key from its written form. -/
def ofBytes? (bytes : Bytes) : Option RsaPublicKey := do
  match ← (← Element.ofBytes? .distinguished bytes).sequence? .distinguished with
  | [modulus, exponent] => return ⟨← modulus.natural?, ← exponent.natural?⟩
  | _ => none

/-- The count of bytes in the modulus. -/
def size (key : RsaPublicKey) : Nat := Bytes.width key.modulus

end RsaPublicKey

namespace RsaPrivateKey

/-- The public half of the key. -/
def publicKey (key : RsaPrivateKey) : RsaPublicKey := ⟨key.modulus, key.publicExponent⟩

/-- The numbers of the key in writing order, after the version. -/
def numbers (key : RsaPrivateKey) : List Nat :=
  [key.modulus, key.publicExponent, key.privateExponent, key.prime1, key.prime2, key.exponent1,
    key.exponent2, key.coefficient]

/-- The written form of the key: the version of keys with two primes, and the numbers. -/
def bytes (key : RsaPrivateKey) : Bytes :=
  (ofSequence (ofNatural 0 :: key.numbers.map ofNatural)).bytes

/-- The key of the numbers of a written form. -/
def ofNumbers? : List Nat → Option RsaPrivateKey
  | [0, modulus, publicExponent, privateExponent, prime1, prime2, exponent1, exponent2,
      coefficient] =>
    some ⟨modulus, publicExponent, privateExponent, prime1, prime2, exponent1, exponent2,
      coefficient⟩
  | _ => none

/-- Reads a key from the element that is its written form. -/
def ofElement? (rules : Rules) (e : Element) : Option RsaPrivateKey := do
  ofNumbers? (← (← e.sequence? rules).mapM Element.natural?)

/-- Whether the numbers of the key fit together: two primes with this product, exponents that undo
each other, and the numbers that speed the private operation up. -/
def isConsistent (key : RsaPrivateKey) : Bool :=
  1 < key.publicExponent && key.publicExponent % 2 == 1 &&
    Modular.isPrime key.prime1 && Modular.isPrime key.prime2 &&
    key.modulus == key.prime1 * key.prime2 &&
    key.privateExponent * key.publicExponent % Nat.lcm (key.prime1 - 1) (key.prime2 - 1) == 1 &&
    key.exponent1 == key.privateExponent % (key.prime1 - 1) &&
    key.exponent2 == key.privateExponent % (key.prime2 - 1) &&
    key.coefficient < key.prime1 && key.coefficient * key.prime2 % key.prime1 == 1

end RsaPrivateKey

namespace RsaSignature

/-- The digest of a message behind the name of the hash function. -/
def digestInfo (message : Bytes) : Bytes :=
  (ofSequence [ofSequence [⟨identifierTag, Identifier.sha256⟩, ⟨nullTag, []⟩],
    ⟨octetStringTag, CloudAuth.sha256.digest message⟩]).bytes

/-- The least count of padding bytes. -/
def minPadding : Nat := 8

/-- The padded digest of a message, `size` bytes long, if there is room for it. -/
def padded? (size : Nat) (message : Bytes) : Option Bytes :=
  let info := digestInfo message
  if size < info.length + minPadding + 3 then none
  else some (0 :: 1 :: List.replicate (size - info.length - 3) 0xFF ++ 0 :: info)

/-- The signature of a message, unless the modulus is too short for the padded digest. -/
def sign? (key : RsaPrivateKey) (message : Bytes) : Option Bytes :=
  (padded? key.publicKey.size message).map fun block =>
    Bytes.ofNat key.publicKey.size (Modular.power key.modulus (Bytes.toNat block) key.privateExponent)

/-- Whether a signature of a message is valid under a public key. -/
def verify (key : RsaPublicKey) (message signature : Bytes) : Bool :=
  signature.length == key.size && decide (Bytes.toNat signature < key.modulus) &&
    padded? key.size message ==
      some (Bytes.ofNat key.size (Modular.power key.modulus (Bytes.toNat signature) key.exponent))

end RsaSignature

end CloudAuth
