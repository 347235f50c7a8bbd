import CloudAuth.Codec.Bytes
import CloudAuth.Error

/-!
# Token requests

What a client sends to get a token: its name, the address, the scopes or the resource, and the secret
or the key material by which it authenticates.
-/

namespace CloudAuth

/-- How a client authenticates. -/
inductive AuthType where
  /-- By a signed assertion. -/
  | assertion
  /-- By a secret. -/
  | secret
  /-- By another value, which no request can be made with. -/
  | other (v : Json)
  deriving Repr

/-- The shape of a token request. -/
structure TokenRequest where
  /-- The name of the client. -/
  clientId : Text
  /-- The address. -/
  tokenUrl : Text
  /-- The scopes. -/
  scopes : List Text
  /-- The resource, in the first version of the protocol. -/
  resource : Option Text
  /-- The secret. -/
  clientSecret : Option Text
  /-- The key. -/
  privateKey : Option Bytes
  /-- The certificate. -/
  certificate : Option Bytes
  deriving DecidableEq, Repr

namespace TokenRequest

/-- Whether bytes are given. -/
def isGiven (bytes : Option Bytes) : Bool := !(bytes.getD []).isEmpty

/-- Whether the material that an authentication needs is there. -/
def checkMaterial (request : TokenRequest) : AuthType → Except SetupError Unit
  | .assertion =>
    if isGiven request.privateKey && isGiven request.certificate then .ok () else .error .missingMaterial
  | .secret => if (request.clientSecret.getD []).isEmpty then .error .missingSecret else .ok ()
  | .other _ => .ok ()

/-- The request as it is shown, without its secrets. -/
def shown (request : TokenRequest) : String :=
  "TokenSourceConfig(client_id=" ++ Text.quoted request.clientId ++ ", token_url=" ++
    Text.quoted request.tokenUrl ++ ", scopes=" ++ Text.quotedGroup request.scopes ++ ", resource=" ++
    Text.quotedOption request.resource ++ ")"

end TokenRequest

end CloudAuth
