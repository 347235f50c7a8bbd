import CloudAuth.Assertion
import CloudAuth.Endpoint
import CloudAuth.Expiry
import CloudAuth.Supply
import CloudAuth.TokenRequest
import CloudAuth.Trace

/-!
# Client sources

A source that requests tokens for a client. It keeps the last token and gives it again until the token
is about to expire. A request that fails leaves the kept token as it was.
-/

namespace CloudAuth

/-- A token with its time of expiry. -/
structure AccessToken where
  /-- The token, a text unless the response held something else. -/
  token : Json
  /-- The time of expiry. -/
  expiresOn : Int
  deriving Repr

/-- A source of tokens for a client. -/
structure ClientSource where
  /-- The shape of the request. -/
  request : TokenRequest
  /-- How the client authenticates. -/
  authType : AuthType
  /-- Whether the source made its session itself, and so closes it. -/
  ownsSession : Bool
  deriving Repr

/-- What a client source keeps between operations. -/
structure TokenCache where
  /-- The last token. -/
  token : Option AccessToken
  /-- How many tokens were obtained so far. -/
  obtained : Nat
  deriving Repr

/-- The cache of a new source. -/
def TokenCache.empty : TokenCache := ⟨none, 0⟩

namespace TokenRequest

/-- The source that authenticates in a given way, if the material for it is there. -/
def source (request : TokenRequest) (authType : AuthType) (ownsSession : Bool) :
    Except SetupError ClientSource :=
  (request.checkMaterial authType).map fun _ => ⟨request, authType, ownsSession⟩

end TokenRequest

namespace ClientSource

/-- What an assertion is said to be. -/
def assertionType : Text := "urn:ietf:params:oauth:client-assertion-type:jwt-bearer"

/-- Reads the key that assertions are signed with. -/
def loadKey : Option Bytes → Except Fault PrivateKey
  | none => .error .missingMaterial
  | some bytes =>
    match PrivateKey.ofBytes bytes with
    | .ok key => .ok key
    | .error .encrypted => .error .encryptedKey
    | .error .malformed => .error .malformedMaterial

/-- The thumbprint of the certificate that assertions name. -/
def loadThumbprint : Option Bytes → Except Fault (List Char)
  | none => .error .missingMaterial
  | some bytes =>
    match Certificate.thumbprint? bytes with
    | some thumbprint => .ok thumbprint
    | none => .error .malformedMaterial

/-- Signs claims, which needs an RSA key that is long enough. -/
def signWith (key : PrivateKey) (thumbprint : List Char) (claims : Claims) : Except Fault String :=
  match key with
  | .rsa key =>
    match Assertion.sign? key thumbprint claims with
    | some text => .ok (String.ofList text)
    | none => .error .shortKey
  | _ => .error .foreignKey

/-- The claims of an assertion. -/
def claims (request : TokenRequest) (supply : Supply) : Claims where
  audience := request.tokenUrl
  client := request.clientId
  identifier := supply.identifier
  notBefore := wholeSeconds supply.now

/-- Makes an assertion. The key is read first; then an identifier is drawn, whether or not the rest
succeeds. -/
def assertion (request : TokenRequest) (supply : Supply) : Except Fault String × Supply :=
  match loadKey request.privateKey with
  | .error e => (.error e, supply)
  | .ok key =>
    ((loadThumbprint request.certificate).bind fun thumbprint =>
        signWith key thumbprint (claims request supply),
      supply.afterIdentifier)

/-- The field that says what the token is for: the resource if there is one, or else the scopes. -/
def targetFields (request : TokenRequest) : Form :=
  if !(request.resource.getD []).isEmpty then [("resource", request.resource)]
  else if !request.scopes.isEmpty then [("scope", some (List.intercalate " " request.scopes))]
  else []

/-- The fields of every request. -/
def commonFields (request : TokenRequest) : Form :=
  ("grant_type", some "client_credentials") :: ("client_id", some request.clientId) ::
    targetFields request

/-- The form that the source sends. -/
def form (source : ClientSource) (supply : Supply) : Except Fault Form × Supply :=
  match source.authType with
  | .assertion =>
    let (text, rest) := assertion source.request supply
    (text.map fun text =>
        commonFields source.request ++
          [("client_assertion_type", some assertionType), ("client_assertion", some (Text.ofString text))],
      rest)
  | _ => (.ok (commonFields source.request ++ [("client_secret", source.request.clientSecret)]), supply)

/-- The header fields of every request. -/
def headers : List (String × String) := [("Accept", "application/json")]

/-- What a response with an error status says about the error. -/
def detail (members : List (Text × Json)) (reason : Option Text) : Json :=
  let given (name : String) : Option Json :=
    match Json.lookup? (Text.ofString name) members with
    | some v => if v.isTruthy then some v else none
    | none => none
  ((given "error_description").or (given "error")).getD
    (match reason with
      | some t => .str t
      | none => .null)

/-- The token in a response. -/
def readResponse (url : Text) (response : HttpResponse) (now : Rat) : Except Error AccessToken := do
  if HttpResponse.errorStatus ≤ response.status then
    let members ← (payloadMembers response.payload).mapError Error.fault
    .error (.token (.rejected url response.status (detail members response.reason)))
  else
    let members ← (payloadMembers response.payload).mapError Error.fault
    match Json.lookup? (Text.ofString "access_token") members with
    | some token =>
      if token.isTruthy then
        return ⟨token, ← (expiresOn members now).mapError Error.fault⟩
      else .error (.token (.noToken url))
    | none => .error (.token (.noToken url))

/-- The token in the outcome of a request. -/
def readOutcome (url : Text) (outcome : HttpOutcome) (now : Rat) : Except Error AccessToken :=
  match outcome with
  | .response response => readResponse url response now
  | .failure kind message => .error (.token (.unreachable url kind message))
  | .broken kind message => .error (.fault (.foreign kind message))

/-- The name of a way to authenticate. -/
def authName : AuthType → Except Fault String
  | .assertion => .ok "assertion"
  | .secret => .ok "secret"
  | .other v => .error (.noValue v)

/-- The record that a token is requested. -/
def requestRecord (name : String) (url : Text) : LogRecord :=
  ⟨.debug, "graphauth.token_sources", "Requesting " ++ name ++ " token from " ++ url⟩

/-- Requests a token. Nothing is sent when the form cannot be made. -/
def exchange (source : ClientSource) (supply : Supply) : Except Error AccessToken × Supply × Trace :=
  match authName source.authType with
  | .error e => (.error (.fault e), supply, [])
  | .ok name =>
    let url := source.request.tokenUrl
    let record := Event.log (requestRecord name url)
    match source.form supply with
    | (.error e, rest) => (.error (.fault e), rest, [record])
    | (.ok form, rest) =>
      (readOutcome url rest.response rest.now, rest.afterResponse,
        [record, .post ⟨url, form, headers⟩])

/-- The token that can be given again. -/
def reusable? (cache : TokenCache) (now : Rat) : Option AccessToken :=
  cache.token.filter fun token => !isExpiring token.expiresOn now

/-- Gives a token: the last one while it can be used, or else a new one. -/
def token (source : ClientSource) (cache : TokenCache) (supply : Supply) :
    Except Error AccessToken × TokenCache × Supply × Trace :=
  match reusable? cache supply.now with
  | some token => (.ok token, cache, supply, [])
  | none =>
    match source.exchange supply with
    | (.ok token, rest, trace) => (.ok token, ⟨some token, cache.obtained + 1⟩, rest, trace)
    | (.error e, rest, trace) => (.error e, cache, rest, trace)

/-- What making the source does: a session is opened, unless the source is given one. -/
def opening (source : ClientSource) : Trace := if source.ownsSession then [.sessionOpened] else []

/-- What closing the source does: the session is closed, if the source made it. -/
def closing (source : ClientSource) : Trace := if source.ownsSession then [.sessionClosed] else []

end ClientSource

end CloudAuth
