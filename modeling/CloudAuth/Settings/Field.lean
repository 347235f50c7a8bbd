import CloudAuth.Json.Basic
import CloudAuth.Path

/-!
# Fields of the settings

The ten fields, the names that each can be given under, and where a value comes from: the explicit
values first, then the environment of the process, and in each of them the first name of the field
that is there. Names are matched exactly. A name that starts with an underline is none of a field: such
names are instructions how to read the settings, of which the one about empty variables is followed.
-/

namespace CloudAuth

/-- A field of the settings. -/
inductive Field where
  /-- The name of the cloud. -/
  | cloudName
  /-- The version of the token protocol. -/
  | version
  /-- The tenant. -/
  | tenantId
  /-- The client. -/
  | clientId
  /-- Whether certificates may be used. -/
  | useCertificate
  /-- The path of the bundle with the certificate. -/
  | certificatePath
  /-- The password of the bundle. -/
  | certificatePassword
  /-- Whether the secret may be used. -/
  | useSecret
  /-- The secret. -/
  | clientSecret
  /-- Whether the session of the command line may be used. -/
  | useCommandLine
  deriving DecidableEq, Repr

namespace Field

/-- All fields in order. -/
def all : List Field :=
  [cloudName, version, tenantId, clientId, useCertificate, certificatePath, certificatePassword,
    useSecret, clientSecret, useCommandLine]

/-- The name of a field. -/
def name : Field → String
  | cloudName => "environment"
  | version => "version"
  | tenantId => "tenant_id"
  | clientId => "client_id"
  | useCertificate => "enable_client_certificate_auth"
  | certificatePath => "certificate_path"
  | certificatePassword => "certificate_password"
  | useSecret => "enable_client_secret_auth"
  | clientSecret => "client_secret"
  | useCommandLine => "enable_azure_cli_auth"

/-- The names that a field can be given under besides its own, in order. -/
def otherNames : Field → List String
  | cloudName => ["ARM_ENVIRONMENT", "AZURE_ENVIRONMENT"]
  | version => ["TOKEN_VERSION"]
  | tenantId => ["AZURE_TENANT_ID", "TENANT_ID"]
  | clientId => ["AZURE_CLIENT_ID", "CLIENT_ID"]
  | useCertificate => ["ENABLE_CLIENT_CERTIFICATE_AUTH"]
  | certificatePath => ["AZURE_CLIENT_CERTIFICATE_PATH"]
  | certificatePassword => ["AZURE_CLIENT_CERTIFICATE_PASSWORD"]
  | useSecret => ["ENABLE_CLIENT_SECRET_AUTH"]
  | clientSecret => ["AZURE_CLIENT_SECRET", "CLIENT_SECRET"]
  | useCommandLine => ["ENABLE_AZURE_CLI_AUTH"]

/-- All names that a field can be given under. -/
def names (field : Field) : List Text := (field.name :: field.otherNames).map Text.ofString

end Field

/-- A value that is given for a field. -/
inductive SettingValue where
  /-- A plain value. -/
  | json (v : Json)
  /-- A text that is marked as secret. -/
  | secret (t : Text)
  /-- A path. -/
  | path (p : Path)
  deriving Repr

/-- Whether a value counts as given: not null, false, zero or empty. -/
def SettingValue.isTruthy : SettingValue → Bool
  | json v => v.isTruthy
  | secret t => !t.isEmpty
  | path _ => true

/-- Where values come from. -/
structure SettingSources where
  /-- The values given explicitly. -/
  explicit : List (Text × SettingValue)
  /-- The environment of the process. -/
  environment : List (Text × Text)
  deriving Repr

namespace SettingSources

/-- The explicit name that belongs to no field, but tells to pass over empty variables. -/
def ignoreEmptyName : Text := "_env_ignore_empty"

/-- Whether empty variables are passed over. -/
def ignoresEmpty (sources : SettingSources) : Bool :=
  match sources.explicit.lookup ignoreEmptyName with
  | some value => value.isTruthy
  | none => false

/-- The variables that values are taken from. -/
def givenVariables (sources : SettingSources) : List (Text × Text) :=
  if sources.ignoresEmpty then sources.environment.filter fun entry => !entry.2.isEmpty
  else sources.environment

/-- The value under the first of some names that is there. -/
def firstOf? {α : Type} (values : List (Text × α)) (names : List Text) : Option α :=
  names.findSome? fun name => values.lookup name

/-- The value that is given for a field. -/
def find? (sources : SettingSources) (field : Field) : Option SettingValue :=
  match firstOf? sources.explicit field.names with
  | some value => some value
  | none => (firstOf? sources.givenVariables field.names).map fun t => .json (.str t)

end SettingSources

end CloudAuth
