import CloudAuth.Certificate
import CloudAuth.Codec.Unicode
import CloudAuth.Json.Reader
import CloudAuth.Json.Writer
import CloudAuth.Key.Private

/-!
# Client assertions

A client assertion is a signed statement of the client about itself, in three parts joined by points:
a header that names the certificate, the claims, and the signature over both. The parts are written in
the alphabet of addresses.
-/

namespace CloudAuth

/-- What an assertion states. -/
structure Claims where
  /-- The address that the assertion is for. -/
  audience : Text
  /-- The client that makes the assertion, about itself. -/
  client : Text
  /-- The identifier of this one assertion. -/
  identifier : String
  /-- The time from which the assertion holds. -/
  notBefore : Int
  deriving DecidableEq, Repr

/-- How many seconds an assertion holds. -/
def assertionLifetime : Int := 3600

namespace Claims

/-- The claims as an object. -/
def toJson (claims : Claims) : Json :=
  .obj [(Text.ofString "aud", .str claims.audience), (Text.ofString "iss", .str claims.client),
    (Text.ofString "sub", .str claims.client), (Text.ofString "jti", .ofString claims.identifier),
    (Text.ofString "nbf", .int claims.notBefore),
    (Text.ofString "exp", .int (claims.notBefore + assertionLifetime))]

end Claims

/-- The header of an assertion, which names the certificate by its thumbprint. -/
def assertionHeader (thumbprint : List Char) : Json :=
  .obj [(Text.ofString "alg", .ofString "RS256"), (Text.ofString "typ", .ofString "JWT"),
    (Text.ofString "x5t", .str (thumbprint.map .scalar))]

namespace Assertion

/-- One part of an assertion. -/
def segment (bytes : Bytes) : List Char := Base64.encodeBare .urlSafe bytes

/-- The part that holds a JSON value. -/
def jsonSegment (v : Json) : List Char := segment (Bytes.ofChars v.chars)

/-- What the signature is over: header and claims, joined by a point. -/
def signedChars (thumbprint : List Char) (claims : Claims) : List Char :=
  jsonSegment (assertionHeader thumbprint) ++ '.' :: jsonSegment claims.toJson

/-- The assertion signed with a key, unless the key is too short. -/
def sign? (key : RsaPrivateKey) (thumbprint : List Char) (claims : Claims) : Option (List Char) :=
  (RsaSignature.sign? key (Bytes.ofChars (signedChars thumbprint claims))).map fun signature =>
    signedChars thumbprint claims ++ '.' :: segment signature

/-- The parts of a text between its points. -/
def parts : List Char → List (List Char)
  | [] => [[]]
  | c :: rest =>
    match parts rest with
    | [] => [[c]]
    | first :: others => if c = '.' then [] :: first :: others else (c :: first) :: others

/-- The JSON value that a part holds. -/
def readSegment? (cs : List Char) : Option Json := do
  let bytes ← Base64.decodeBare? .urlSafe cs
  (Json.read (← Unicode.decodeUtf8 bytes)).toOption

end Assertion

end CloudAuth
