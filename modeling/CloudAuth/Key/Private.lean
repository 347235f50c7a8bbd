import CloudAuth.Key.Curve
import CloudAuth.Key.Edwards
import CloudAuth.Key.Public

/-!
# Private keys

Private keys of the known kinds and their written forms: the general form that names the algorithm,
and the older forms of RSA, elliptic and DSA keys, which are told apart by the count of their parts.
An RSA key whose numbers do not fit together is refused.
-/

namespace CloudAuth

open Asn1

/-- A private key. -/
inductive PrivateKey where
  /-- An RSA key. -/
  | rsa (key : RsaPrivateKey)
  /-- A key on the curve of that name, with its public point. -/
  | elliptic (curve point : Bytes)
  /-- A seed for the twisted curve over the smaller field. -/
  | ed25519 (seed : Bytes)
  /-- A seed for the twisted curve over the larger field. -/
  | ed448 (seed : Bytes)
  /-- An exponent of `g` modulo `p`, in a group of order `q`. -/
  | dsa (p q g exponent : Nat)
  /-- A key of another kind, with the written form of its public half. -/
  | other (kind : Text.Wording) (publicBytes : Bytes)
  deriving DecidableEq, Repr

/-- Why bytes give no private key. -/
inductive KeyError where
  /-- They are no written form of a key. -/
  | malformed
  /-- They are an encrypted key, and there is no password. -/
  | encrypted
  deriving DecidableEq, Repr

namespace PrivateKey

/-- The public half of a key. -/
def publicKey : PrivateKey → PublicKey
  | rsa key => .rsa key.publicKey
  | elliptic curve point => .elliptic curve point
  | ed25519 seed => .ed25519 (EdwardsCurve.ed25519.publicKey seed)
  | ed448 seed => .ed448 (EdwardsCurve.ed448.publicKey seed)
  | dsa p q g exponent => .dsa p q g (Modular.power p g exponent)
  | other kind publicBytes => .other kind publicBytes

/-- The name of a key's kind in messages. -/
def kindName : PrivateKey → String
  | rsa _ => "RSAPrivateKey"
  | elliptic _ _ => "ECPrivateKey"
  | ed25519 _ => "Ed25519PrivateKey"
  | ed448 _ => "Ed448PrivateKey"
  | dsa _ _ _ _ => "DSAPrivateKey"
  | other kind _ => kind.words

/-- The RSA key of some numbers that fit together. -/
def ofRsa? (key : RsaPrivateKey) : Option PrivateKey :=
  if key.isConsistent then some (rsa key) else none

/-- The content of the optional part of an elliptic key under a tag. -/
def ellipticPart? (rules : Rules) (number : Nat) (parts : List Element) : Option Element :=
  parts.findSome? (·.inside? rules number)

/-- Reads the parts of an elliptic key. The curve is named inside the key, or by `outer`; a missing
public point is the multiple of the base point. -/
def ofEllipticParts? (rules : Rules) (outer : Option Bytes) : List Element → Option PrivateKey
  | version :: factor :: optional => do
    let _ ← version.natural?
    let factor ← factor.octets? rules
    let curve ← ((ellipticPart? rules 0 optional).bind Element.identifier?).or outer
    match (ellipticPart? rules 1 optional).bind Element.bits? with
    | some point => return elliptic curve point
    | none => return elliptic curve (← (← Curve.find? curve).publicPoint? (Bytes.toNat factor))
  | _ => none

/-- Reads a seed of `size` bytes, which is itself an element. -/
def seed? (rules : Rules) (size : Nat) (bytes : Bytes) : Option Bytes := do
  let seed ← (← Element.ofBytes? rules bytes).octets? rules
  if seed.length = size then some seed else none

/-- The key of an algorithm's name, its parameters and the bytes of the key. -/
def ofParts? (rules : Rules) (algorithm : Bytes) (parameters : List Element) (bytes : Bytes) :
    Option PrivateKey :=
  if algorithm = Identifier.rsa then do
    ofRsa? (← RsaPrivateKey.ofElement? rules (← Element.ofBytes? rules bytes))
  else if algorithm = Identifier.ed25519 then (seed? rules 32 bytes).map ed25519
  else if algorithm = Identifier.ed448 then (seed? rules 57 bytes).map ed448
  else if algorithm = Identifier.ellipticKey then do
    ofEllipticParts? rules (parameters.head?.bind Element.identifier?)
      (← (← Element.ofBytes? rules bytes).sequence? rules)
  else if algorithm = Identifier.dsa then do
    match ← (← (← parameters.head?).sequence? rules).mapM Element.natural? with
    | [p, q, g] => return dsa p q g (← (← Element.ofBytes? rules bytes).natural?)
    | _ => none
  else none

/-- Reads the parts of the general form: version, algorithm, key, and perhaps attributes. -/
def ofInfoParts? (rules : Rules) : List Element → Option PrivateKey
  | version :: algorithm :: key :: rest => do
    if version.isInteger ∧ (rest = [] ∨ rest.map Element.tag = [contextTag 0]) then
      match ← algorithm.sequence? rules with
      | name :: parameters =>
        if 1 < parameters.length then none
        else ofParts? rules (← name.identifier?) parameters (← key.octets? rules)
      | [] => none
    else none
  | _ => none

/-- Reads the general form. -/
def ofInfo? (rules : Rules) (e : Element) : Option PrivateKey :=
  (e.sequence? rules).bind (ofInfoParts? rules)

/-- Reads the parts of the older form of a DSA key. -/
def ofDsaParts? : List Nat → Option PrivateKey
  | [_, p, q, g, _, exponent] => some (dsa p q g exponent)
  | _ => none

/-- Whether the parts are those of an encrypted key. -/
def isEncrypted (rules : Rules) : List Element → Bool
  | [algorithm, text] =>
    ((algorithm.sequence? rules).bind fun parts => parts.head?.bind Element.identifier?).isSome &&
      (text.octets? rules).isSome
  | _ => false

/-- Reads the parts of any written form. -/
def ofAnyParts? (rules : Rules) (parts : List Element) : Option PrivateKey :=
  match parts.length with
  | 3 => ofInfoParts? rules parts
  | 4 => (ofEllipticParts? rules none parts).or (ofInfoParts? rules parts)
  | 6 => (parts.mapM Element.natural?).bind ofDsaParts?
  | _ => ((parts.mapM Element.natural?).bind RsaPrivateKey.ofNumbers?).bind ofRsa?

/-- Reads a key that is not encrypted, in any written form. -/
def ofBytes (bytes : Bytes) : Except KeyError PrivateKey :=
  match (Element.ofBytes? .distinguished bytes).bind (·.sequence? .distinguished) with
  | none => .error .malformed
  | some parts =>
    match ofAnyParts? .distinguished parts with
    | some key => .ok key
    | none => .error (if isEncrypted .distinguished parts then .encrypted else .malformed)

end PrivateKey

end CloudAuth
