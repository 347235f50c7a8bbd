import CloudAuth.Settings.Value

/-!
# Settings

The credentials and the methods that may be used. Settings are read field by field: a field that is
not given has its default, and every field with a bad value is reported, in the order of the fields.
-/

namespace CloudAuth

/-- A problem with a field. -/
structure FieldError where
  /-- The name of the field. -/
  location : String
  /-- The problem. -/
  problem : FieldProblem
  deriving DecidableEq, Repr

/-- The line that reports a problem. -/
def FieldError.line (e : FieldError) : String :=
  e.location ++ ": " ++ e.problem.description ++ " [" ++ e.problem.code ++ "]"

/-- The report of some problems, a line for each. -/
def FieldError.report (errors : List FieldError) : String := "\n".intercalate (errors.map line)

/-- The settings. -/
structure Settings where
  /-- The name of the cloud. -/
  cloudName : Text
  /-- The version of the token protocol. -/
  version : TokenVersion
  /-- The tenant. -/
  tenantId : Option Text
  /-- The client. -/
  clientId : Option Text
  /-- Whether certificates may be used. -/
  useCertificate : Bool
  /-- The path of the bundle with the certificate. -/
  certificatePath : Option Path
  /-- The password of the bundle. -/
  certificatePassword : Option Text
  /-- Whether the secret may be used. -/
  useSecret : Bool
  /-- The secret. -/
  clientSecret : Option Text
  /-- Whether the session of the command line may be used. -/
  useCommandLine : Bool
  deriving DecidableEq, Repr

namespace Settings

/-- The settings when nothing is given. -/
def default : Settings where
  cloudName := "global"
  version := .v2
  tenantId := none
  clientId := none
  useCertificate := false
  certificatePath := none
  certificatePassword := none
  useSecret := false
  clientSecret := none
  useCommandLine := false

/-- The value of a field, or its default if none is given. -/
def fieldValue {α : Type} (sources : SettingSources) (field : Field)
    (read : SettingValue → Except FieldProblem α) (missing : α) : Except FieldProblem α :=
  match sources.find? field with
  | some value => read value
  | none => .ok missing

/-- The problem with a field, if there is one. -/
def problemOf {α : Type} (field : Field) : Except FieldProblem α → List FieldError
  | .ok _ => []
  | .error problem => [⟨field.name, problem⟩]

/-- Reads the settings. -/
def read (sources : SettingSources) : Except (List FieldError) Settings :=
  let cloudName := fieldValue sources .cloudName SettingValue.text default.cloudName
  let version := fieldValue sources .version SettingValue.version default.version
  let tenantId := fieldValue sources .tenantId (SettingValue.orNull SettingValue.text) default.tenantId
  let clientId := fieldValue sources .clientId (SettingValue.orNull SettingValue.text) default.clientId
  let useCertificate := fieldValue sources .useCertificate SettingValue.truth default.useCertificate
  let certificatePath := fieldValue sources .certificatePath SettingValue.pathOf default.certificatePath
  let certificatePassword :=
    fieldValue sources .certificatePassword (SettingValue.orNull SettingValue.secretText)
      default.certificatePassword
  let useSecret := fieldValue sources .useSecret SettingValue.truth default.useSecret
  let clientSecret :=
    fieldValue sources .clientSecret (SettingValue.orNull SettingValue.secretText) default.clientSecret
  let useCommandLine := fieldValue sources .useCommandLine SettingValue.truth default.useCommandLine
  match cloudName, version, tenantId, clientId, useCertificate, certificatePath, certificatePassword,
    useSecret, clientSecret, useCommandLine with
  | .ok cloudName, .ok version, .ok tenantId, .ok clientId, .ok useCertificate, .ok certificatePath,
    .ok certificatePassword, .ok useSecret, .ok clientSecret, .ok useCommandLine =>
    .ok ⟨cloudName, version, tenantId, clientId, useCertificate, certificatePath, certificatePassword,
      useSecret, clientSecret, useCommandLine⟩
  | _, _, _, _, _, _, _, _, _, _ =>
    .error (problemOf .cloudName cloudName ++ problemOf .version version ++
      problemOf .tenantId tenantId ++ problemOf .clientId clientId ++
      problemOf .useCertificate useCertificate ++ problemOf .certificatePath certificatePath ++
      problemOf .certificatePassword certificatePassword ++ problemOf .useSecret useSecret ++
      problemOf .clientSecret clientSecret ++ problemOf .useCommandLine useCommandLine)

/-- Settings do not change: setting a field of this name always fails. -/
def assign (_ : Settings) (name : String) (_ : SettingValue) : Except FieldError Settings :=
  .error ⟨name, .frozen⟩

/-- The cloud of the settings. -/
def cloud (settings : Settings) : Except SetupError Cloud := Cloud.find settings.cloudName

/-- A truth value as it is shown. -/
def shownTruth (b : Bool) : String := if b then "True" else "False"

/-- A version as it is shown. -/
def shownVersion : TokenVersion → String
  | .v1 => "<TokenVersion.V1: 'v1'>"
  | .v2 => "<TokenVersion.V2: 'v2'>"

/-- A path as it is shown. -/
def shownPath : Option Path → String
  | none => "None"
  | some p => "PosixPath(" ++ Text.quoted p.text ++ ")"

/-- A secret as it is shown, which tells only whether it is empty. -/
def shownSecret : Option Text → String
  | none => "None"
  | some t => if t.isEmpty then "SecretStr('')" else "SecretStr('**********')"

/-- The settings as they are shown. -/
def shown (settings : Settings) : String :=
  "AuthConfig(environment=" ++ Text.quoted settings.cloudName ++ ", version=" ++
    shownVersion settings.version ++ ", tenant_id=" ++ Text.quotedOption settings.tenantId ++
    ", client_id=" ++ Text.quotedOption settings.clientId ++ ", enable_client_certificate_auth=" ++
    shownTruth settings.useCertificate ++ ", certificate_path=" ++
    shownPath settings.certificatePath ++ ", certificate_password=" ++
    shownSecret settings.certificatePassword ++ ", enable_client_secret_auth=" ++
    shownTruth settings.useSecret ++ ", client_secret=" ++ shownSecret settings.clientSecret ++
    ", enable_azure_cli_auth=" ++ shownTruth settings.useCommandLine ++ ")"

end Settings

end CloudAuth
