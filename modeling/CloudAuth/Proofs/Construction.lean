import Mathlib
import CloudAuth.Selection

/-!
# How client sources are made

A source for a client is made by the settings, from a bundle, or with a secret. Whichever way is taken,
what comes out is `Registration.source`: the source of a registration with the material that the client
authenticates with. Later proofs see a source through this form alone.
-/

namespace CloudAuth

/-- What a source is made for. -/
structure Registration where
  /-- The cloud. -/
  cloud : Cloud
  /-- The API that the tokens are for. -/
  api : Api
  /-- The version of the token protocol. -/
  version : TokenVersion
  /-- The tenant. -/
  tenant : Option Text
  /-- The name of the client. -/
  clientId : Text
  deriving DecidableEq, Repr

/-- What a client authenticates with. -/
inductive Material where
  /-- A key with its certificate. -/
  | credential (c : Credential)
  /-- A secret. -/
  | secret (s : Text)
  deriving DecidableEq, Repr

/-- The method that a material is for. -/
def Material.method : Material → AuthMethod
  | credential _ => .clientCertificate
  | secret _ => .clientSecret

/-- A way to make a source for a client. -/
inductive Construction where
  /-- By the settings, which select the method. -/
  | bySettings (files : FileSystem) (settings : Settings) (api : Api)
  /-- With the credential in a bundle. -/
  | fromBundle (files : FileSystem) (registration : Registration) (path : GivenPath)
    (password : Option Text)
  /-- With a secret. -/
  | withSecret (registration : Registration) (secret : Option Text)

namespace Registration

/-- The endpoint of the API. -/
def base (registration : Registration) : Text := registration.cloud.endpoint registration.api

/-- Where and for what the tokens are requested. -/
def endpoint (registration : Registration) : Endpoint where
  url := tokenUrl registration.cloud.authority registration.tenant (some registration.version)
  scopes := [registration.base ++ scopeSuffix]
  resource := if registration.version = .v1 then some (registration.base ++ "/") else none

/-- The request that a material is added to. -/
def request (registration : Registration) : TokenRequest :=
  Authorizer.requestFor registration.endpoint registration.clientId

/-- The source that authenticates with a material. -/
def source (registration : Registration) : Material → ClientSource
  | .credential c =>
    ⟨{ registration.request with
      privateKey := some c.privateKey, certificate := some c.certificate }, .assertion, true⟩
  | .secret s => ⟨{ registration.request with clientSecret := some s }, .secret, true⟩

/-- The endpoint of a registration is the one that is derived for it. -/
theorem derive_eq (registration : Registration) :
    Endpoint.derive registration.cloud (.known registration.api) registration.tenant
      (some registration.version) = .ok registration.endpoint := by
  unfold Endpoint.derive endpoint
  cases registration.version <;> rfl

/-- The address and the client are the same with every material. -/
@[simp]
theorem source_tokenUrl (registration : Registration) (material : Material) :
    (registration.source material).request.tokenUrl = registration.endpoint.url := by
  cases material <;> rfl

end Registration

namespace Construction

/-- The authorizer that comes out. -/
def authorizer : Construction → Except Error Authorizer
  | bySettings files settings api => (Authorizer.ofSettings files.platform settings (.known api)).1
  | fromBundle files registration path password =>
    (Authorizer.ofBundle files.platform registration.cloud (.known registration.api)
      (some registration.version) registration.tenant registration.clientId path password).1
  | withSecret registration secret =>
    Authorizer.ofSecret registration.cloud (.known registration.api) (some registration.version)
      registration.tenant registration.clientId secret

/-- What the source is made for, if that can be told. -/
def registration? : Construction → Option Registration
  | bySettings _ settings api => do
    let cloud ← settings.cloud.toOption
    let clientId ← settings.clientId
    return ⟨cloud, api, settings.version, settings.tenantId, clientId⟩
  | fromBundle _ registration _ _ => some registration
  | withSecret registration _ => some registration

/-- The method by which the source authenticates. -/
def method? : Construction → Option AuthMethod
  | bySettings _ settings _ => settings.select.1
  | fromBundle .. => some .clientCertificate
  | withSecret .. => some .clientSecret

/-- The secret that is configured for the source. -/
def secret? : Construction → Option Text
  | bySettings _ settings _ => settings.clientSecret
  | fromBundle .. => none
  | withSecret _ secret => secret

/-- The credential in the bundle that is configured for the source. -/
def credential? : Construction → Option Credential
  | bySettings files settings _ =>
    (Credential.load files.platform
      (.path (settings.certificatePath.getD (Path.ofText [])))
      settings.certificatePassword).1.toOption
  | fromBundle files _ path password => (Credential.load files.platform path password).1.toOption
  | withSecret .. => none

/-- The material of the method. -/
def material? (construction : Construction) : Option Material :=
  match construction.method? with
  | some .clientCertificate => construction.credential?.map .credential
  | some .clientSecret => construction.secret?.map .secret
  | _ => none

/-- The material is the credential or the secret that is configured, and the method goes with it. -/
theorem cases_of_material? {construction : Construction} {material : Material}
    (hmaterial : construction.material? = some material) :
    (∃ credential, material = .credential credential ∧
        construction.method? = some .clientCertificate ∧
        construction.credential? = some credential) ∨
      ∃ secret, material = .secret secret ∧ construction.method? = some .clientSecret ∧
        construction.secret? = some secret := by
  unfold material? at hmaterial
  split at hmaterial
  · next hmethod =>
    obtain ⟨credential, hcredential, rfl⟩ := Option.map_eq_some_iff.mp hmaterial
    exact .inl ⟨credential, rfl, hmethod, hcredential⟩
  · next hmethod =>
    obtain ⟨secret, hsecret, rfl⟩ := Option.map_eq_some_iff.mp hmaterial
    exact .inr ⟨secret, rfl, hmethod, hsecret⟩
  · contradiction

/-- The method is the one of the material. -/
theorem method?_of_material? {construction : Construction} {material : Material}
    (hmaterial : construction.material? = some material) :
    construction.method? = some material.method := by
  rcases cases_of_material? hmaterial with ⟨_, rfl, hmethod, -⟩ | ⟨_, rfl, hmethod, -⟩
  · exact hmethod
  · exact hmethod

/-- A material that is a secret is the one that is configured. -/
theorem secret?_of_material? {construction : Construction} {secret : Text}
    (hmaterial : construction.material? = some (.secret secret)) :
    construction.secret? = some secret := by
  rcases cases_of_material? hmaterial with ⟨_, hother, -⟩ | ⟨_, hsame, -, hsecret⟩
  · cases hother
  · cases hsame
    exact hsecret

/-- A material that is a credential was loaded from a bundle. -/
theorem load_of_material? {construction : Construction} {credential : Credential}
    (hmaterial : construction.material? = some (.credential credential)) :
    ∃ (files : FileSystem) (path : GivenPath) (password : Option Text),
      (Credential.load files.platform path password).1 = .ok credential := by
  have hload {made : Except Error Credential} (hmade : made.toOption = some credential) :
      made = .ok credential := by
    cases made with
    | error e => contradiction
    | ok found => rw [Option.some.inj hmade]
  rcases cases_of_material? hmaterial with ⟨_, hsame, -, hcredential⟩ | ⟨_, hother, -⟩
  · cases hsame
    cases construction with
    | bySettings files settings api => exact ⟨_, _, _, hload hcredential⟩
    | fromBundle files registration path password => exact ⟨_, _, _, hload hcredential⟩
    | withSecret registration secret => contradiction
  · cases hother

end Construction

/-- A method that is selected is one of those in question, and may be used and has what it needs. -/
theorem Settings.selectFrom_eq_some (settings : Settings) {methods : List AuthMethod}
    {method : AuthMethod} (hselected : (settings.selectFrom methods).1 = some method) :
    method ∈ methods ∧ settings.isEnabled method = true ∧ settings.isReady method = true := by
  induction methods with
  | nil => contradiction
  | cons first rest ih =>
    unfold selectFrom at hselected
    have hrest (h : (settings.selectFrom rest).1 = some method) :
        method ∈ first :: rest ∧ settings.isEnabled method = true ∧
          settings.isReady method = true := by
      obtain ⟨hmem, hmethod⟩ := ih h
      exact ⟨List.mem_cons_of_mem _ hmem, hmethod⟩
    split at hselected
    · next henabled =>
      split at hselected
      · next hready =>
        cases hselected
        exact ⟨List.mem_cons_self, henabled, hready⟩
      · exact hrest hselected
    · exact hrest hselected

/-- Settings that identify a client name it. -/
theorem Settings.exists_clientId {settings : Settings} (hidentity : settings.hasIdentity = true) :
    ∃ clientId, settings.clientId = some clientId := by
  cases hclient : settings.clientId with
  | none => simp [hasIdentity, hclient, isPresent] at hidentity
  | some clientId => exact ⟨clientId, rfl⟩

namespace Authorizer

/-- The source of a request whose material has to be there. -/
theorem ofRequest_eq_ok {request : TokenRequest} {authType : AuthType} {source : ClientSource}
    (hsource : ofRequest request authType = .ok (.client source)) :
    source = ⟨request, authType, true⟩ := by
  unfold ofRequest TokenRequest.source at hsource
  cases hcheck : request.checkMaterial authType with
  | error e => simp [hcheck, Except.map] at hsource
  | ok checked =>
    simp only [hcheck, Except.map, Except.ok.injEq, Authorizer.client.injEq] at hsource
    exact hsource.symm

/-- The source that is made with a secret. -/
theorem ofSecret_eq_ok (registration : Registration) {secret : Option Text} {source : ClientSource}
    (hsource : ofSecret registration.cloud (.known registration.api) (some registration.version)
      registration.tenant registration.clientId secret = .ok (.client source)) :
    ∃ s, secret = some s ∧ source = registration.source (.secret s) := by
  unfold ofSecret at hsource
  rw [registration.derive_eq] at hsource
  cases secret with
  | none => contradiction
  | some s => exact ⟨s, rfl, ofRequest_eq_ok hsource⟩

/-- The source that is made with a credential. -/
theorem ofCredential_eq_ok (registration : Registration) {credential : Credential}
    {source : ClientSource}
    (hsource : ofCredential registration.cloud (.known registration.api) (some registration.version)
      registration.tenant registration.clientId credential = .ok (.client source)) :
    source = registration.source (.credential credential) := by
  unfold ofCredential at hsource
  rw [registration.derive_eq] at hsource
  exact ofRequest_eq_ok hsource

/-- The source that is made from a bundle. -/
theorem ofBundle_eq_ok {platform : Platform} (registration : Registration) {path : GivenPath}
    {password : Option Text} {source : ClientSource}
    (hsource : (ofBundle platform registration.cloud (.known registration.api)
      (some registration.version) registration.tenant registration.clientId path password).1 =
        .ok (.client source)) :
    ∃ credential, (Credential.load platform path password).1 = .ok credential ∧
      source = registration.source (.credential credential) := by
  unfold ofBundle at hsource
  cases hload : (Credential.load platform path password).1 with
  | error error => simp [hload, Except.bind] at hsource
  | ok credential =>
    simp only [hload, Except.bind] at hsource
    exact ⟨credential, rfl, ofCredential_eq_ok registration hsource⟩

/-- An authorizer whose errors are put down to a method is the authorizer. -/
theorem ofMethod_of_build {platform : Platform} {settings : Settings} {api : Api} {method : AuthMethod}
    {authorizer : Authorizer} (hbuild : (build platform settings api method).1 = .ok authorizer) :
    ∃ cloud, settings.cloud = .ok cloud ∧
      (ofMethod platform settings api cloud method).1 = .ok authorizer := by
  unfold build at hbuild
  cases hcloud : settings.cloud with
  | error e =>
    rw [hcloud] at hbuild
    contradiction
  | ok cloud =>
    rw [hcloud] at hbuild
    refine ⟨cloud, rfl, ?_⟩
    cases hmethod : (ofMethod platform settings api cloud method).1 with
    | error e => simp [hmethod, Except.mapError] at hbuild
    | ok made =>
      simp only [hmethod, Except.mapError] at hbuild
      exact hbuild

/-- An authorizer by the settings is built for the selected method. -/
theorem build_of_ofSettings {platform : Platform} {settings : Settings} {api : Api}
    {authorizer : Authorizer}
    (hmade : (ofSettings platform settings (.known api)).1 = .ok authorizer) :
    ∃ method, settings.select.1 = some method ∧
      (build platform settings api method).1 = .ok authorizer := by
  unfold ofSettings at hmade
  cases hselect : settings.select with
  | mk selected records =>
    rw [hselect] at hmade
    cases selected with
    | none => contradiction
    | some method =>
      dsimp only at hmade
      exact ⟨method, rfl, hmade⟩

/-- No source for a client comes from the command line. -/
theorem ofCommandLine_ne_client (cloud : Cloud) (api : ApiChoice) (tenant : Option Text)
    (source : ClientSource) : ofCommandLine cloud api tenant ≠ .ok (.client source) := by
  unfold ofCommandLine
  intro hmade
  split at hmade
  · contradiction
  · split at hmade
    · cases hmade
    · contradiction

end Authorizer

namespace Construction

/-- Every source for a client is the source of its registration with the material of its method. -/
theorem source_eq {construction : Construction} {source : ClientSource}
    (hsource : construction.authorizer = .ok (.client source)) :
    ∃ registration material, construction.registration? = some registration ∧
      construction.material? = some material ∧ source = registration.source material := by
  cases construction with
  | fromBundle files registration path password =>
    obtain ⟨credential, hload, hmade⟩ := Authorizer.ofBundle_eq_ok registration hsource
    refine ⟨registration, .credential credential, rfl, ?_, hmade⟩
    simp [material?, method?, credential?, hload, Except.toOption]
  | withSecret registration secret =>
    obtain ⟨s, rfl, hmade⟩ := Authorizer.ofSecret_eq_ok registration hsource
    exact ⟨registration, .secret s, rfl, rfl, hmade⟩
  | bySettings files settings api =>
    obtain ⟨method, hselected, hbuild⟩ := Authorizer.build_of_ofSettings hsource
    obtain ⟨cloud, hcloud, hmade⟩ := Authorizer.ofMethod_of_build hbuild
    obtain ⟨-, -, hready⟩ := settings.selectFrom_eq_some hselected
    -- The command line makes no source for a client, and the other methods need a client.
    cases method with
    | commandLine =>
      exact absurd hmade (Authorizer.ofCommandLine_ne_client cloud (.known api) settings.tenantId source)
    | clientCertificate =>
      obtain ⟨clientId, hclient⟩ := settings.exists_clientId (by simp_all [Settings.isReady])
      obtain ⟨credential, hload, hmade⟩ := Authorizer.ofBundle_eq_ok
        ⟨cloud, api, settings.version, settings.tenantId, settings.clientId.getD []⟩ hmade
      refine ⟨_, .credential credential, ?_, ?_, hmade⟩
      · simp [registration?, hcloud, hclient, Except.toOption]
      · simp [material?, method?, hselected, credential?, hload, Except.toOption]
    | clientSecret =>
      obtain ⟨clientId, hclient⟩ := settings.exists_clientId (by simp_all [Settings.isReady])
      obtain ⟨secret, hsecret, hmade⟩ := Authorizer.ofSecret_eq_ok
        ⟨cloud, api, settings.version, settings.tenantId, settings.clientId.getD []⟩ hmade
      refine ⟨_, .secret secret, ?_, ?_, hmade⟩
      · simp [registration?, hcloud, hclient, Except.toOption]
      · simp [material?, method?, hselected, secret?, hsecret]

end Construction

end CloudAuth
