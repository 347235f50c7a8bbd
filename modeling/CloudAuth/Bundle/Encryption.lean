import CloudAuth.Asn1.Identifier
import CloudAuth.Asn1.Value
import CloudAuth.Bundle.Passphrase
import CloudAuth.Cipher.Aes
import CloudAuth.Cipher.Cbc
import CloudAuth.Cipher.TripleDes
import CloudAuth.Hash.Choice
import CloudAuth.Hash.Pbkdf2

/-!
# Encryption in bundles

The two schemes under which the parts of a bundle are encrypted: one names a key derivation and a
cipher of its choice, the other stands for triple DES under a key derived with SHA-1.
-/

namespace CloudAuth

open Asn1

/-- A cipher in chained blocks. -/
inductive BlockCipher where
  /-- AES with a key of that many bytes. -/
  | aes (keySize : Nat)
  /-- Triple DES. -/
  | tripleDes
  deriving DecidableEq, Repr

namespace BlockCipher

/-- The count of bytes in a key. -/
def keySize : BlockCipher → Nat
  | aes size => size
  | tripleDes => 24

/-- The count of bytes in a block. -/
def blockSize : BlockCipher → Nat
  | aes _ => 16
  | tripleDes => 8

/-- Decrypts a text under a key. -/
def decrypt? (cipher : BlockCipher) (key start text : Bytes) : Option Bytes :=
  match cipher with
  | aes _ => Cbc.decrypt? (Aes.decryptBlock (Aes.roundKeys key)) 16 start text
  | tripleDes => Cbc.decrypt? (TripleDes.decryptBlock (TripleDes.Keys.ofBytes key)) 8 start text

/-- The cipher with a registered name. -/
def ofIdentifier? (name : Bytes) : Option BlockCipher :=
  if name = Identifier.aes128Cbc then some (aes 16)
  else if name = Identifier.aes192Cbc then some (aes 24)
  else if name = Identifier.aes256Cbc then some (aes 32)
  else if name = Identifier.tripleDesCbc then some tripleDes
  else none

end BlockCipher

/-- How a part of a bundle is encrypted. -/
inductive Encryption where
  /-- A cipher under a key derived by chained message codes, of the given length if one is given. -/
  | chained (code : HashChoice) (salt : Bytes) (iterations : Nat) (length : Option Nat)
      (cipher : BlockCipher) (start : Bytes)
  /-- Triple DES under a key derived with SHA-1. -/
  | sha1TripleDes (salt : Bytes) (iterations : Nat)
  deriving DecidableEq, Repr

namespace Encryption

/-- The hash function of a message code. -/
def codeOf? (name : Bytes) : Option HashChoice :=
  if name = Identifier.hmacSha1 then some .sha1
  else if name = Identifier.hmacSha256 then some .sha256
  else if name = Identifier.hmacSha384 then some .sha384
  else if name = Identifier.hmacSha512 then some .sha512
  else none

/-- The name and the parameters of an algorithm. -/
def algorithm? (e : Element) : Option (Bytes × List Element) := do
  match ← e.sequence? .basic with
  | name :: parameters => return (← name.identifier?, parameters)
  | [] => none

/-- Reads the hash function of the message code from what follows the iterations, which is an optional
length and an optional algorithm. -/
def readCode? : List Element → Option (HashChoice × Option Nat)
  | [] => some (.sha1, none)
  | [e] =>
    if e.tag = integerTag then e.natural?.map fun n => (.sha1, some n)
    else do return (← codeOf? (← algorithm? e).1, none)
  | [length, code] => do return (← codeOf? (← algorithm? code).1, some (← length.natural?))
  | _ => none

/-- Reads the scheme that names its derivation and its cipher. -/
def readChained? (parameters : Element) : Option Encryption := do
  match ← parameters.sequence? .basic with
  | [derivation, scheme] =>
    match ← algorithm? derivation, ← algorithm? scheme with
    | (derivationName, [derivationParameters]), (cipherName, [start]) =>
      if derivationName = Identifier.pbkdf2 then
        match ← derivationParameters.sequence? .basic with
        | salt :: iterations :: rest =>
          let (code, length) ← readCode? rest
          return chained code (← salt.octets? .basic) (← iterations.natural?) length
            (← BlockCipher.ofIdentifier? cipherName) (← start.octets? .basic)
        | _ => none
      else none
    | _, _ => none
  | _ => none

/-- Reads the scheme with a fixed derivation and cipher. -/
def readSha1TripleDes? (parameters : Element) : Option Encryption := do
  match ← parameters.sequence? .basic with
  | [salt, iterations] => return sha1TripleDes (← salt.octets? .basic) (← iterations.natural?)
  | _ => none

/-- Reads the element that says how a part is encrypted. -/
def ofElement? (e : Element) : Option Encryption := do
  match ← algorithm? e with
  | (name, [parameters]) =>
    if name = Identifier.pbes2 then readChained? parameters
    else if name = Identifier.sha1TripleDes then readSha1TripleDes? parameters
    else none
  | _ => none

/-- Decrypts a text. -/
def decrypt? (encryption : Encryption) (passphrase : Passphrase) (text : Bytes) : Option Bytes :=
  match encryption with
  | chained code salt iterations length cipher start =>
    if length.getD cipher.keySize = cipher.keySize ∧ start.length = cipher.blockSize then
      let key := Pbkdf2.derive code.function passphrase.plainBytes salt iterations cipher.keySize
      cipher.decrypt? key start text
    else none
  | sha1TripleDes salt iterations =>
    let key := passphrase.derive CloudAuth.sha1 .key salt iterations 24
    let start := passphrase.derive CloudAuth.sha1 .start salt iterations 8
    BlockCipher.tripleDes.decrypt? key start text

end Encryption

end CloudAuth
