import CloudAuth.Codec.Base64
import CloudAuth.Hash.Sha1
import CloudAuth.Key.Public

/-!
# Certificates

A certificate is one element: the signed part, the algorithm of the signature, and the signature. The
signed part gives the numbers, names, times and the public key. A certificate is told by its
thumbprint, the digest of its bytes in the alphabet of addresses.
-/

namespace CloudAuth

open Asn1

/-- A certificate with what is needed of it. -/
structure Certificate where
  /-- The bytes of the certificate. -/
  bytes : Bytes
  /-- The public key, if it is of a known kind. -/
  publicKey : Option PublicKey
  /-- There is at least one byte. -/
  bytes_ne_nil : bytes ≠ []
  deriving DecidableEq, Repr

namespace Certificate

/-- How deep the parts of a certificate may be nested. -/
def maxDepth : Nat := 64

/-- Whether an element is the name of an algorithm with at most one parameter. -/
def isAlgorithm (e : Element) : Bool :=
  match e.sequence? .distinguished with
  | some [name] => name.identifier?.isSome
  | some [name, _] => name.identifier?.isSome
  | _ => false

/-- Whether an element is one attribute of a name. -/
def isAttribute (e : Element) : Bool :=
  match e.sequence? .distinguished with
  | some [name, _] => name.identifier?.isSome
  | _ => false

/-- Whether an element is the name of an issuer or a subject. -/
def isName (e : Element) : Bool :=
  match e.sequence? .distinguished with
  | some sets =>
    sets.all fun set =>
      match set.parts? .distinguished setTag with
      | some attributes => !attributes.isEmpty && attributes.all isAttribute
      | none => false
  | none => false

/-- The numbers of two digits that some bytes consist of. -/
def digitPairs? : Bytes → Option (List Nat)
  | [] => some []
  | a :: b :: rest =>
    if 0x30 ≤ a ∧ a ≤ 0x39 ∧ 0x30 ≤ b ∧ b ≤ 0x39 then
      (digitPairs? rest).map (((a.toNat - 0x30) * 10 + (b.toNat - 0x30)) :: ·)
    else none
  | _ => none

/-- The count of days in a month. -/
def daysIn (year month : Nat) : Nat :=
  if month = 2 then if year % 4 = 0 ∧ (year % 100 ≠ 0 ∨ year % 400 = 0) then 29 else 28
  else if month = 4 ∨ month = 6 ∨ month = 9 ∨ month = 11 then 30
  else 31

/-- Whether a date and a time of the day exist. -/
def isMoment (year : Nat) : List Nat → Bool
  | [month, day, hour, minute, second] =>
    1 ≤ month && month ≤ 12 && 1 ≤ day && day ≤ daysIn year month && hour < 24 && minute < 60 &&
      second < 60
  | _ => false

/-- Whether an element is a time: with a year of two digits, which belong to the years from 1950 to
2049, or with a year of four. The last character is `Z`. -/
def isTime (e : Element) : Bool :=
  e.content.getLast? == some 0x5A &&
    match e.tag, digitPairs? e.content.dropLast with
    | 0x17, some (year :: rest) => isMoment (if year < 50 then 2000 + year else 1900 + year) rest
    | 0x18, some (century :: year :: rest) => isMoment (100 * century + year) rest
    | _, _ => false

/-- Whether an element is a pair of times. -/
def isValidity (e : Element) : Bool :=
  match e.sequence? .distinguished with
  | some [start, finish] => isTime start && isTime finish
  | _ => false

/-- Whether an element is an extension. -/
def isExtension (e : Element) : Bool :=
  match e.sequence? .distinguished with
  | some [name, value] => name.identifier?.isSome && value.tag == octetStringTag
  | some [name, critical, value] =>
    name.identifier?.isSome && critical == ⟨0x01, [0xFF]⟩ && value.tag == octetStringTag
  | _ => false

/-- Whether an element holds the extensions. -/
def isExtensions (e : Element) : Bool :=
  match (e.inside? .distinguished 3).bind (·.sequence? .distinguished) with
  | some extensions => !extensions.isEmpty && extensions.all isExtension
  | none => false

/-- Whether the parts after the public key are those allowed there, in their order. -/
def isTail (parts : List Element) : Bool :=
  let afterIssuer := match parts with
    | e :: rest => if e.tag = plainContextTag 1 then rest else parts
    | [] => []
  let afterSubject := match afterIssuer with
    | e :: rest => if e.tag = plainContextTag 2 then rest else afterIssuer
    | [] => []
  match afterSubject with
  | [] => true
  | [e] => isExtensions e
  | _ => false

/-- The element of the public key in a signed part without its version. -/
def keyOfSigned? : List Element → Option Element
  | serial :: algorithm :: issuer :: validity :: subject :: key :: tail =>
    if serial.isInteger && isAlgorithm algorithm && isName issuer && isValidity validity &&
        isName subject && isTail tail then some key
    else none
  | _ => none

/-- The parts of a signed part without the version, which is 1 if it is not given. -/
def withoutVersion? : List Element → Option (List Element)
  | version :: rest =>
    if version.tag = contextTag 0 then
      match (version.inside? .distinguished 0).bind Element.natural? with
      | some n => if n = 0 ∨ n = 2 then some rest else none
      | none => none
    else some (version :: rest)
  | [] => none

/-- Whether an element is a public key, of whatever kind. -/
def isPublicKey (e : Element) : Bool :=
  match e.sequence? .distinguished with
  | some [algorithm, bits] => isAlgorithm algorithm && bits.isBitString
  | _ => false

/-- The element of the public key in the element of a certificate. -/
def keyOf? (e : Element) : Option Element := do
  if e.isWellFormed maxDepth then
    match ← e.sequence? .distinguished with
    | [signed, algorithm, signature] =>
      let key ← keyOfSigned? (← withoutVersion? (← signed.sequence? .distinguished))
      if isPublicKey key && isAlgorithm algorithm && signature.isBitString then return key else none
    | _ => none
  else none

/-- Reads the certificate that some bytes are. -/
def ofBytes? (bytes : Bytes) : Option Certificate := do
  let key ← keyOf? (← Element.ofBytes? .distinguished bytes)
  if hbytes : bytes = [] then none
  else return ⟨bytes, PublicKey.ofElement? key, hbytes⟩

/-- The digest of some bytes in the alphabet of addresses, without padding. -/
def thumbprintText (bytes : Bytes) : List Char := Base64.encodeBare .urlSafe (sha1.digest bytes)

/-- The thumbprint of the certificate that some bytes are. -/
def thumbprint? (bytes : Bytes) : Option (List Char) :=
  (ofBytes? bytes).map fun certificate => thumbprintText certificate.bytes

end Certificate

end CloudAuth
