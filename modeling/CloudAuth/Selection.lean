import CloudAuth.Authorizer
import CloudAuth.Credential
import CloudAuth.Settings.Basic

/-!
# Selection

The choice of a method: the first one in the order of preference that may be used and has all that it
needs. A method that may be used but is passed over leaves a record in the log. When the chosen method
fails, no other is tried.
-/

namespace CloudAuth

namespace Settings

/-- Whether a text is there and not blank. -/
def isPresent (value : Option Text) : Bool :=
  match value with
  | some t => !Text.isBlankText t
  | none => false

/-- Whether tenant and client are there. -/
def hasIdentity (settings : Settings) : Bool :=
  isPresent settings.tenantId && isPresent settings.clientId

/-- Whether a method has all that it needs. -/
def isReady (settings : Settings) : AuthMethod → Bool
  | .clientCertificate => settings.hasIdentity && isPresent (settings.certificatePath.map Path.text)
  | .clientSecret => settings.hasIdentity && isPresent settings.clientSecret
  | .commandLine => true

/-- Whether a method may be used. -/
def isEnabled (settings : Settings) : AuthMethod → Bool
  | .clientCertificate => settings.useCertificate
  | .clientSecret => settings.useSecret
  | .commandLine => settings.useCommandLine

/-- The name of the log of the selection. -/
def selectionLogger : String := "graphauth.factory"

/-- The records that a method is passed over. -/
def skipRecords : AuthMethod → List LogRecord
  | .clientCertificate =>
    [⟨.debug, selectionLogger,
      "Skipping client certificate auth: tenant_id, client_id and certificate_path are required"⟩]
  | .clientSecret =>
    [⟨.debug, selectionLogger,
      "Skipping client secret auth: tenant_id, client_id and client_secret are required"⟩]
  | .commandLine => []

/-- The first usable method of some methods, and the records of those passed over before it. -/
def selectFrom (settings : Settings) : List AuthMethod → Option AuthMethod × List LogRecord
  | [] => (none, [])
  | method :: rest =>
    if settings.isEnabled method then
      if settings.isReady method then (some method, [])
      else
        let (selected, records) := selectFrom settings rest
        (selected, skipRecords method ++ records)
    else selectFrom settings rest

/-- The methods in the order of preference. -/
def preference : List AuthMethod := [.clientCertificate, .clientSecret, .commandLine]

/-- The method that is selected, and the records of those passed over before it. -/
def select (settings : Settings) : Option AuthMethod × List LogRecord :=
  settings.selectFrom preference

end Settings

namespace Authorizer

/-- The request for an endpoint, without the material to authenticate. -/
def requestFor (endpoint : Endpoint) (clientId : Text) : TokenRequest where
  clientId
  tokenUrl := endpoint.url
  scopes := endpoint.scopes
  resource := endpoint.resource
  clientSecret := none
  privateKey := none
  certificate := none

/-- The authorizer of a request whose material has to be there. -/
def ofRequest (request : TokenRequest) (authType : AuthType) : Except Error Authorizer :=
  match request.source authType true with
  | .ok source => .ok (client source)
  | .error e => .error (.configuration (.setup e))

/-- What making an authorizer does, if it is made. -/
def openingOf : Except Error Authorizer → Trace
  | .ok authorizer => authorizer.opening
  | .error _ => []

/-- An authorizer with what making it does. -/
def opened (authorizer : Except Error Authorizer) : Except Error Authorizer × Trace :=
  (authorizer, openingOf authorizer)

/-- The authorizer that signs assertions with a credential. -/
def ofCredential (cloud : Cloud) (api : ApiChoice) (version : Option TokenVersion)
    (tenant : Option Text) (clientId : Text) (credential : Credential) : Except Error Authorizer :=
  match Endpoint.derive cloud api tenant version with
  | .error e => .error (.fault e)
  | .ok endpoint =>
    ofRequest { requestFor endpoint clientId with
      privateKey := some credential.privateKey, certificate := some credential.certificate } .assertion

/-- The authorizer that signs assertions with the credential in a bundle. -/
def ofBundle (platform : Platform) (cloud : Cloud) (api : ApiChoice) (version : Option TokenVersion)
    (tenant : Option Text) (clientId : Text) (path : GivenPath) (password : Option Text) :
    Except Error Authorizer × Trace :=
  let (credential, trace) := Credential.load platform path password
  let authorizer := credential.bind (ofCredential cloud api version tenant clientId)
  (authorizer, trace ++ openingOf authorizer)

/-- The authorizer that uses a secret. -/
def ofSecret (cloud : Cloud) (api : ApiChoice) (version : Option TokenVersion) (tenant : Option Text)
    (clientId : Text) (secret : Option Text) : Except Error Authorizer :=
  match Endpoint.derive cloud api tenant version with
  | .error e => .error (.fault e)
  | .ok endpoint => ofRequest { requestFor endpoint clientId with clientSecret := secret } .secret

/-- The authorizer that uses the session of the command line. -/
def ofCommandLine (cloud : Cloud) (api : ApiChoice) (tenant : Option Text) : Except Error Authorizer :=
  match scopes cloud api with
  | .error e => .error (.fault e)
  | .ok scopes =>
    match CommandLineSource.make scopes tenant with
    | .ok source => .ok (commandLine source)
    | .error e => .error (.configuration (.setup e))

/-- The error of a selected method: errors of the configuration and of bundles are put down to the
method, and all others are passed on. -/
def blame (method : AuthMethod) : Error → Error
  | .configuration (.setup e) => .configuration (.methodFailed method (.setup e))
  | .decode e => .configuration (.methodFailed method (.decode e))
  | e => e

/-- The authorizer of a selected method for a cloud. -/
def ofMethod (platform : Platform) (settings : Settings) (api : Api) (cloud : Cloud) :
    AuthMethod → Except Error Authorizer × Trace
  | .clientCertificate =>
    ofBundle platform cloud (.known api) (some settings.version) settings.tenantId
      (settings.clientId.getD []) (.path (settings.certificatePath.getD (Path.ofText [])))
      settings.certificatePassword
  | .clientSecret =>
    opened (ofSecret cloud (.known api) (some settings.version) settings.tenantId
      (settings.clientId.getD []) settings.clientSecret)
  | .commandLine => opened (ofCommandLine cloud (.known api) settings.tenantId)

/-- The record that a method is used. -/
def useRecord (method : AuthMethod) (api : Api) : LogRecord :=
  ⟨.info, Settings.selectionLogger, "Using " ++ method.name ++ " authentication for " ++ api.name⟩

/-- The authorizer of a selected method. The cloud is looked up before anything is read. -/
def build (platform : Platform) (settings : Settings) (api : Api) (method : AuthMethod) :
    Except Error Authorizer × Trace :=
  match settings.cloud with
  | .error e => (.error (blame method (.configuration (.setup e))), [])
  | .ok cloud =>
    let (authorizer, trace) := ofMethod platform settings api cloud method
    (authorizer.mapError (blame method), trace)

/-- The authorizer for an API by the settings. -/
def ofSettings (platform : Platform) (settings : Settings) (api : ApiChoice) :
    Except Error Authorizer × Trace :=
  match settings.select with
  | (none, records) => (.error (.configuration .noMethod), Trace.ofRecords records)
  | (some method, records) =>
    match api with
    | .other v => (.error (.fault (.noValue v)), Trace.ofRecords records)
    | .known api =>
      let (authorizer, trace) := build platform settings api method
      (authorizer, Trace.ofRecords (records ++ [useRecord method api]) ++ trace)

/-- The authorizer for an API by the settings that are given, or else by those in the environment. If the
latter cannot be read, their errors are all there is. -/
def ofGiven (platform : Platform) (environment : List (Text × Text)) (given : Option Settings)
    (api : ApiChoice) : Except (List FieldError) (Except Error Authorizer × Trace) :=
  match given with
  | some settings => .ok (ofSettings platform settings api)
  | none => (Settings.read ⟨[], environment⟩).map fun settings => ofSettings platform settings api

end Authorizer

end CloudAuth
