import CloudAuth.Bundle.Encryption
import CloudAuth.Certificate
import CloudAuth.Hash.Hmac
import CloudAuth.Key.Private

/-!
# Contents of bundles

A bundle holds safes, plain or encrypted, and each safe holds bags with keys, certificates or further
bags. A message code over all safes shows whether the passphrase is the right one. Of the keys only
the first counts; the certificates are kept in the order of the bags. Anything that cannot be read
makes the whole bundle unreadable.
-/

namespace CloudAuth

open Asn1

/-- What is taken out of a bundle. -/
structure BundleContents where
  /-- The first key. -/
  key : Option PrivateKey
  /-- The certificates in order. -/
  certificates : List Certificate
  deriving DecidableEq, Repr

/-- The message code over the safes. -/
structure BundleCode where
  /-- The hash function of the code. -/
  hash : HashChoice
  /-- The code. -/
  code : Bytes
  /-- The salt of the code's key. -/
  salt : Bytes
  /-- How often the key is hashed. -/
  iterations : Nat
  deriving DecidableEq, Repr

namespace BundleCode

/-- The hash function with a registered name. -/
def hashOf? (name : Bytes) : Option HashChoice :=
  if name = Identifier.sha1 then some .sha1
  else if name = Identifier.sha256 then some .sha256
  else if name = Identifier.sha384 then some .sha384
  else if name = Identifier.sha512 then some .sha512
  else none

/-- Reads how often the key is hashed, which is once if nothing is said. -/
def readIterations? : List Element → Option Nat
  | [] => some 1
  | [e] => e.natural?
  | _ => none

/-- Reads a message code. -/
def ofElement? (e : Element) : Option BundleCode := do
  match ← e.sequence? .basic with
  | info :: salt :: rest =>
    match ← info.sequence? .basic with
    | [algorithm, code] =>
      return ⟨← hashOf? (← Encryption.algorithm? algorithm).1, ← code.octets? .basic,
        ← salt.octets? .basic, ← readIterations? rest⟩
    | _ => none
  | _ => none

/-- Whether the code is the one of some bytes under a passphrase. -/
def accepts (code : BundleCode) (passphrase : Passphrase) (bytes : Bytes) : Bool :=
  let key := passphrase.derive code.hash.function .code code.salt code.iterations code.hash.digestSize
  hmac code.hash.function key bytes == code.code

end BundleCode

/-- A bundle before it is opened. -/
structure Bundle where
  /-- The bytes of all safes together. -/
  safes : Bytes
  /-- The message code over them, if there is one. -/
  code : Option BundleCode
  deriving DecidableEq, Repr

namespace Bundle

/-- The kind and the value of a typed part. -/
def typed? (e : Element) : Option (Bytes × Element) := do
  match ← e.sequence? .basic with
  | [kind, value] => return (← kind.identifier?, ← value.inside? .basic 0)
  | _ => none

/-- The kind and the value of a bag, which attributes may follow. -/
def bagParts? (e : Element) : Option (Bytes × Element) := do
  match ← e.sequence? .basic with
  | kind :: value :: rest =>
    if rest = [] ∨ rest.map Element.tag = [setTag] then
      return (← kind.identifier?, ← value.inside? .basic 0)
    else none
  | _ => none

/-- Reads the message code, if there is one. -/
def readCode? : List Element → Option (Option BundleCode)
  | [] => some none
  | [e] => (BundleCode.ofElement? e).map some
  | _ => none

/-- Reads the outer parts of a bundle. What follows the bundle is ignored. -/
def ofBytes? (bytes : Bytes) : Option Bundle := do
  match ← (← Element.leading? .basic bytes).sequence? .basic with
  | version :: safes :: rest =>
    let (kind, value) ← typed? safes
    if version.isInteger ∧ kind = Identifier.data then
      return ⟨← value.octets? .basic, ← readCode? rest⟩
    else none
  | _ => none

/-- The passphrase that a secret stands for: the first that the message code accepts. Without a code
it is the first there is. -/
def passphrase? (bundle : Bundle) (secret : Option Bytes) : Option Passphrase :=
  match bundle.code with
  | none => (Passphrase.candidates secret).head?
  | some code => (Passphrase.candidates secret).find? fun p => code.accepts p bundle.safes

/-- Decrypts an element that says how its text is encrypted. -/
def unshroud? (passphrase : Passphrase) (e : Element) : Option Bytes := do
  match ← e.sequence? .basic with
  | [algorithm, text] =>
    (← Encryption.ofElement? algorithm).decrypt? passphrase (← text.octets? .basic)
  | _ => none

/-- The contents with one key more, which counts only if it is the first. -/
def addKey? (contents : BundleContents) (key : Option PrivateKey) : Option BundleContents :=
  match contents.key with
  | some _ => some contents
  | none => key.map fun key => { contents with key := some key }

/-- The contents with one certificate more, if it is of the usual kind. -/
def addCertificate? (contents : BundleContents) (value : Element) : Option BundleContents := do
  let (kind, inner) ← typed? value
  if kind = Identifier.x509Certificate then
    let certificate ← Certificate.ofBytes? (← inner.octets? .basic)
    return { contents with certificates := contents.certificates ++ [certificate] }
  else return contents

/-- How deep bags may be nested. -/
def maxBagDepth : Nat := 30

/-- The contents with what one bag holds. -/
def addBag? (passphrase : Passphrase) :
    (depth : Nat) → BundleContents → Element → Option BundleContents
  | 0, _, _ => none
  | depth + 1, contents, bag => do
    let (kind, value) ← bagParts? bag
    if kind = Identifier.keyBag then addKey? contents (PrivateKey.ofInfo? .basic value)
    else if kind = Identifier.shroudedKeyBag then
      addKey? contents
        (((unshroud? passphrase value).bind (Element.leading? .basic)).bind (PrivateKey.ofInfo? .basic))
    else if kind = Identifier.certificateBag then addCertificate? contents value
    else if kind = Identifier.nestedBag then
      (← value.sequence? .basic).foldlM (addBag? passphrase depth) contents
    else return contents

/-- The bytes of the encrypted text of a safe, which is tagged in place of its own tag. -/
def taggedText? (e : Element) : Option Bytes :=
  if e.tag = plainContextTag 0 then some e.content
  else if e.tag = contextTag 0 then
    Element.octets? .basic ⟨partedStringTag, e.content⟩
  else none

/-- Decrypts an encrypted safe. -/
def decryptSafe? (passphrase : Passphrase) (value : Element) : Option Bytes := do
  match ← value.sequence? .basic with
  | [version, inner] =>
    match ← inner.sequence? .basic with
    | [_, algorithm, text] =>
      if version.isInteger then
        (← Encryption.ofElement? algorithm).decrypt? passphrase (← taggedText? text)
      else none
    | _ => none
  | _ => none

/-- The contents with what one safe holds. A safe of an unknown kind is passed over. -/
def addSafe? (passphrase : Passphrase) (contents : BundleContents) (safe : Element) :
    Option BundleContents := do
  match ← safe.sequence? .basic with
  | kind :: rest =>
    let kind ← kind.identifier?
    if 1 < rest.length then none
    else if kind = Identifier.data ∨ kind = Identifier.encryptedData then
      let value ← (← rest.head?).inside? .basic 0
      let bytes ←
        if kind = Identifier.data then value.octets? .basic else decryptSafe? passphrase value
      let bags ← (← Element.leading? .basic bytes).sequence? .basic
      bags.foldlM (addBag? passphrase maxBagDepth) contents
    else return contents
  | [] => none

/-- The contents of a bundle under a passphrase. -/
def contents? (bundle : Bundle) (passphrase : Passphrase) : Option BundleContents := do
  let safes ← (← Element.leading? .basic bundle.safes).sequence? .basic
  safes.foldlM (addSafe? passphrase) ⟨none, []⟩

/-- Opens a bundle with a secret. -/
def open? (bytes : Bytes) (secret : Option Bytes) : Option BundleContents := do
  let bundle ← ofBytes? bytes
  bundle.contents? (← bundle.passphrase? secret)

end Bundle

end CloudAuth
