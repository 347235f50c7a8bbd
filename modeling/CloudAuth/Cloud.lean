import CloudAuth.Error
import CloudAuth.Text.Blank
import CloudAuth.Text.Lowercase

/-!
# Clouds

The registry of national clouds. A cloud has a directory authority, where tokens are requested, and
one endpoint for each API. A name finds its cloud in any case and with blanks around it, and three
clouds have a second name.
-/

namespace CloudAuth

/-- The APIs that tokens can be for. -/
inductive Api where
  /-- The current graph API. -/
  | msGraph
  /-- The legacy directory graph API. -/
  | aadGraph
  deriving DecidableEq, Repr

/-- The name of an API. -/
def Api.name : Api → String
  | msGraph => "ms_graph"
  | aadGraph => "aad_graph"

/-- The API of authorizers for which none is named. -/
def defaultApi : Api := .msGraph

/-- What is given as the API: one of the known ones, or any other value. -/
inductive ApiChoice where
  /-- A known API. -/
  | known (api : Api)
  /-- A value that names no API. -/
  | other (v : Json)
  deriving Repr

/-- A cloud. -/
structure Cloud where
  /-- The name of the cloud in the registry. -/
  name : Text
  /-- The address of the directory authority, without a tenant. -/
  authority : Text
  /-- The endpoint of the current graph API. -/
  msGraph : Text
  /-- The endpoint of the legacy graph API. -/
  aadGraph : Text
  deriving DecidableEq, Repr

namespace Cloud

/-- The endpoint of an API. -/
def endpoint (cloud : Cloud) : Api → Text
  | .msGraph => cloud.msGraph
  | .aadGraph => cloud.aadGraph

/-- The endpoint of what is given as the API. -/
def endpointOf (cloud : Cloud) : ApiChoice → Except Fault Text
  | .known api => .ok (cloud.endpoint api)
  | .other v => .error (.unknownApi v)

/-- The worldwide cloud. -/
def worldwide : Cloud where
  name := "global"
  authority := "https://login.microsoftonline.com"
  msGraph := "https://graph.microsoft.com"
  aadGraph := "https://graph.windows.net"

/-- The government cloud of level four. -/
def governmentL4 : Cloud where
  name := "usgovernmentl4"
  authority := "https://login.microsoftonline.us"
  msGraph := "https://graph.microsoft.us"
  aadGraph := "https://graph.windows.net"

/-- The government cloud of level five. -/
def governmentL5 : Cloud where
  name := "usgovernmentl5"
  authority := "https://login.microsoftonline.us"
  msGraph := "https://dod-graph.microsoft.us"
  aadGraph := "https://graph.windows.net"

/-- The German cloud. -/
def germany : Cloud where
  name := "germany"
  authority := "https://login.microsoftonline.de"
  msGraph := "https://graph.microsoft.de"
  aadGraph := "https://graph.cloudapi.de"

/-- The Chinese cloud. -/
def china : Cloud where
  name := "china"
  authority := "https://login.chinacloudapi.cn"
  msGraph := "https://microsoftgraph.chinacloudapi.cn"
  aadGraph := "https://graph.chinacloudapi.cn"

/-- The cloud where changes are tried first. -/
def canary : Cloud where
  name := "canary"
  authority := "https://login.microsoftonline.com"
  msGraph := "https://canary.graph.microsoft.com"
  aadGraph := "https://graph.windows.net"

/-- All clouds. -/
def registry : List Cloud := [worldwide, governmentL4, governmentL5, germany, china, canary]

/-- The second names, each with the name that it stands for. -/
def aliases : List (Text × Text) :=
  [("public", "global"), ("usgovernment", "usgovernmentl4"), ("dod", "usgovernmentl5")]

/-- The registered name that a key stands for, which is the key itself unless it is a second name. -/
def resolve (key : Text) : Text := (aliases.lookup key).getD key

/-- The key that a name is looked up by. -/
def keyOf (name : Text) : Text := resolve (Text.lower (Text.strip name))

/-- The cloud of a name. -/
def find (name : Text) : Except SetupError Cloud :=
  match registry.find? (·.name == keyOf name) with
  | some cloud => .ok cloud
  | none => .error (.unknownCloud name)

end Cloud

end CloudAuth
