import CloudAuth.Cloud
import CloudAuth.Text.Blank

/-!
# Token endpoints

Where and for what a token is requested: the address from authority, tenant and protocol version, the
scopes, and the resource that the first version of the protocol asks for instead.
-/

namespace CloudAuth

/-- The versions of the token protocol. -/
inductive TokenVersion where
  /-- The first version, with a resource. -/
  | v1
  /-- The second version, with scopes. -/
  | v2
  deriving DecidableEq, Repr

/-- The name of a version. -/
def TokenVersion.name : TokenVersion → String
  | v1 => "v1"
  | v2 => "v2"

/-- The tenant that stands for all tenants. -/
def defaultTenant : Text := "common"

/-- What is appended to an endpoint to make a scope. -/
def scopeSuffix : Text := "/.default"

/-- The tenant without blanks at its ends, or the one for all tenants if nothing is left. -/
def normalTenant (tenant : Option Text) : Text :=
  let stripped := Text.strip (tenant.getD [])
  if stripped.isEmpty then defaultTenant else stripped

/-- The part of the address that the version adds. -/
def versionSegment (version : Option TokenVersion) : Text :=
  if version = some .v2 then "/v2.0" else []

/-- The address where tokens of a tenant are requested. A version that is neither of the two adds
nothing. -/
def tokenUrl (authority : Text) (tenant : Option Text) (version : Option TokenVersion) : Text :=
  authority ++ "/" ++ normalTenant tenant ++ "/oauth2" ++ versionSegment version ++ "/token"

/-- The scopes of an API. -/
def scopes (cloud : Cloud) (api : ApiChoice) : Except Fault (List Text) :=
  (cloud.endpointOf api).map fun endpoint => [endpoint ++ scopeSuffix]

/-- The resource of an API. -/
def resource (cloud : Cloud) (api : ApiChoice) : Except Fault Text :=
  (cloud.endpointOf api).map fun endpoint => endpoint ++ "/"

/-- Where and for what a token is requested. -/
structure Endpoint where
  /-- The address. -/
  url : Text
  /-- The scopes. -/
  scopes : List Text
  /-- The resource, in the first version of the protocol. -/
  resource : Option Text
  deriving DecidableEq, Repr

/-- The endpoint for an API of a cloud. -/
def Endpoint.derive (cloud : Cloud) (api : ApiChoice) (tenant : Option Text)
    (version : Option TokenVersion) : Except Fault Endpoint := do
  let base ← cloud.endpointOf api
  return {
    url := tokenUrl cloud.authority tenant version
    scopes := [base ++ scopeSuffix]
    resource := if version = some .v1 then some (base ++ "/") else none }

/-- The endpoint as it is shown. -/
def Endpoint.shown (endpoint : Endpoint) : String :=
  "DerivedEndpoint(token_url=" ++ Text.quoted endpoint.url ++ ", scopes=" ++
    Text.quotedGroup endpoint.scopes ++ ", resource=" ++ Text.quotedOption endpoint.resource ++ ")"

end CloudAuth
