import CloudAuth.Proofs.Construction
import CloudAuth.Proofs.TokenCall

/-!
# The forms of constructed sources

The parts of a form are worked out in different places: the address and the target from the registration,
and the proof of who the client is from the material. They agree in every form, whichever way the source
was made.
-/

namespace CloudAuth

/-- A form has a field of this name. -/
def Form.Has (form : Form) (name : String) : Prop := name ∈ form.map Prod.fst

/-- The end of the addresses of the second version. -/
def v2Suffix : Text := "/oauth2/v2.0/token"

/-- The end of the addresses of the first version. -/
def v1Suffix : Text := "/oauth2/token"

/-- An address ends in this way. -/
def EndsIn (url suffix : Text) : Prop := suffix <:+ url

namespace Registration

/-- The field that says what the tokens are for. -/
def targetField (registration : Registration) : String × Option Text :=
  match registration.version with
  | .v1 => ("resource", some (registration.base ++ "/"))
  | .v2 => ("scope", some (registration.base ++ scopeSuffix))

/-- A form has one field that says what the tokens are for. -/
theorem targetFields_source (registration : Registration) (material : Material) :
    ClientSource.targetFields (registration.source material).request =
      [registration.targetField] := by
  have htarget : ClientSource.targetFields (registration.source material).request =
      ClientSource.targetFields registration.request := by
    cases material <;> rfl
  rw [htarget]
  unfold ClientSource.targetFields targetField request Authorizer.requestFor endpoint
  cases registration.version with
  | v1 => simp [Text.ofString]
  | v2 => simp

/-- The address of the second version ends in its way. -/
theorem endsIn_of_v2 {registration : Registration} (hversion : registration.version = .v2) :
    EndsIn registration.endpoint.url v2Suffix := by
  refine ⟨registration.cloud.authority ++ "/" ++ normalTenant registration.tenant, ?_⟩
  unfold endpoint tokenUrl versionSegment v2Suffix
  rw [hversion]
  simp only [if_true, List.append_assoc]
  rfl

/-- The address of the first version ends in its way, and not in that of the second. -/
theorem endsIn_of_v1 {registration : Registration} (hversion : registration.version = .v1) :
    EndsIn registration.endpoint.url v1Suffix ∧ ¬ EndsIn registration.endpoint.url v2Suffix := by
  have hends : EndsIn registration.endpoint.url v1Suffix := by
    refine ⟨registration.cloud.authority ++ "/" ++ normalTenant registration.tenant, ?_⟩
    unfold endpoint tokenUrl versionSegment v1Suffix
    rw [hversion]
    simp only [List.append_assoc]
    rfl
  refine ⟨hends, fun hother => ?_⟩
  -- The shorter end would be an end of the longer one.
  have hsuffix : v1Suffix <:+ v2Suffix :=
    List.suffix_of_suffix_length_le hends hother (by decide)
  exact absurd hsuffix (by decide)

/-- The version is the first one exactly when the address is not one of the second. -/
theorem version_eq_v1_iff (registration : Registration) :
    registration.version = .v1 ↔ ¬ EndsIn registration.endpoint.url v2Suffix := by
  cases hversion : registration.version with
  | v1 => exact ⟨fun _ => (endsIn_of_v1 hversion).2, fun _ => rfl⟩
  | v2 => exact ⟨(nomatch ·), fun h => absurd (endsIn_of_v2 hversion) h⟩

/-- The fields that prove who the client is, by each material. -/
inductive ProvesBy : Material → Form → Prop where
  /-- The secret itself. -/
  | secret (s : Text) : ProvesBy (.secret s) [("client_secret", some s)]
  /-- An assertion. -/
  | assertion (c : Credential) (text : String) : ProvesBy (.credential c)
      [("client_assertion_type", some ClientSource.assertionType), ("client_assertion", some text)]

/-- The fields of a form in order. -/
def fields (registration : Registration) (proof : Form) : Form :=
  ("grant_type", some "client_credentials") :: ("client_id", some registration.clientId) ::
    registration.targetField :: proof

/-- Every form consists of these fields, with a proof by the material. -/
theorem form_source (registration : Registration) (material : Material) {supply : Supply} {form : Form}
    (hform : ((registration.source material).form supply).1 = .ok form) :
    ∃ proof, ProvesBy material proof ∧ form = registration.fields proof := by
  have htarget := registration.targetFields_source material
  cases material with
  | secret s =>
    refine ⟨_, .secret s, ?_⟩
    rw [← Except.ok.inj hform]
    unfold ClientSource.commonFields
    rw [htarget]
    rfl
  | credential c =>
    cases htext : (ClientSource.assertion (registration.source (.credential c)).request supply).1 with
    | error fault =>
      change Except.map _ (ClientSource.assertion _ _).1 = _ at hform
      rw [htext] at hform
      contradiction
    | ok text =>
      change Except.map _ (ClientSource.assertion _ _).1 = _ at hform
      rw [htext] at hform
      refine ⟨_, .assertion c text, ?_⟩
      rw [← Except.ok.inj hform]
      unfold ClientSource.commonFields
      rw [htarget]
      rfl

end Registration

/-- A form says the same in all its fields, and the same as the address that it is sent to. -/
structure Form.Coherent (form : Form) (url : Text) (registration : Registration)
    (method : Option AuthMethod) (configured : Option Text) : Prop where
  /-- There are no other fields, one says what the tokens are for, and one way to prove who the client
  is is taken. -/
  names : ∃ target ∈ ["resource", "scope"],
    ∃ proof ∈ [["client_secret"], ["client_assertion_type", "client_assertion"]],
      form.map Prod.fst = "grant_type" :: "client_id" :: target :: proof
  /-- The client asks in its own name. -/
  grantType : form.lookup "grant_type" = some (some (Text.ofString "client_credentials"))
  /-- The client is named as it was given. -/
  clientId : form.lookup "client_id" = some (some registration.clientId)
  /-- The first version asks for a resource. -/
  has_resource_iff : form.Has "resource" ↔ registration.version = .v1
  /-- An address that is not of the second version asks for a resource. -/
  has_resource_iff_url : form.Has "resource" ↔ ¬ EndsIn url v2Suffix
  /-- That address is of the first version. -/
  url_of_resource : form.Has "resource" → EndsIn url v1Suffix
  /-- The resource is the endpoint of the API. -/
  resource : ∀ value, ("resource", value) ∈ form → value = some (registration.base ++ "/")
  /-- The scope is at the same endpoint. -/
  scope : ∀ value, ("scope", value) ∈ form → value = some (registration.base ++ "/.default")
  /-- The secret is sent by the method that uses it. -/
  has_secret_iff : form.Has "client_secret" ↔ method = some .clientSecret
  /-- The secret is sent as it was configured. -/
  secret : ∀ value, ("client_secret", value) ∈ form → ∃ s, value = some s ∧ configured = some s

/-- Every form that a source of a registration makes is coherent. -/
theorem Registration.form_coherent_of_material (registration : Registration) (material : Material)
    {supply : Supply} {form : Form}
    (hform : ((registration.source material).form supply).1 = .ok form) {configured : Option Text}
    (hsecret : ∀ s, material = .secret s → configured = some s) :
    form.Coherent registration.endpoint.url registration (some material.method) configured := by
  obtain ⟨proof, hproof, rfl⟩ := registration.form_source material hform
  -- The target field depends on the version alone, and the proof on the material alone.
  have htarget : registration.targetField.1 ∈ ["resource", "scope"] := by
    unfold targetField
    cases registration.version <;> simp
  have hnames : proof.map Prod.fst ∈
      [["client_secret"], ["client_assertion_type", "client_assertion"]] := by
    cases hproof <;> simp
  have hresource : Form.Has (registration.fields proof) "resource" ↔ registration.version = .v1 := by
    unfold Form.Has fields targetField
    cases hproof <;> cases registration.version <;> simp
  have hsecret_iff : Form.Has (registration.fields proof) "client_secret" ↔
      some material.method = some .clientSecret := by
    unfold Form.Has fields targetField
    cases hproof <;> cases registration.version <;> simp [Material.method]
  refine
    { names := ⟨_, htarget, _, hnames, rfl⟩
      grantType := rfl
      clientId := rfl
      has_resource_iff := hresource
      has_resource_iff_url := hresource.trans registration.version_eq_v1_iff
      url_of_resource := fun hhas => (endsIn_of_v1 (hresource.mp hhas)).1
      resource := ?_
      scope := ?_
      has_secret_iff := hsecret_iff
      secret := ?_ }
  · unfold fields targetField
    cases hproof <;> cases registration.version <;> simp
  · unfold fields targetField
    cases hproof <;> cases registration.version <;> simp [scopeSuffix]
  · unfold fields targetField
    cases hproof with
    | secret s => cases registration.version <;> simp [hsecret s rfl]
    | assertion c text => cases registration.version <;> simp

/-- Every form of a constructed source is coherent, and so is everything that it sends, at its
address. -/
theorem form_coherent (construction : Construction) (source : ClientSource)
    (hsource : construction.authorizer = .ok (.client source)) :
    ∃ registration, construction.registration? = some registration ∧
      source.request.tokenUrl = registration.endpoint.url ∧
      (∀ supply form, (source.form supply).1 = .ok form →
        form.Coherent source.request.tokenUrl registration construction.method?
          construction.secret?) ∧
      ∀ cache supply, ∀ post ∈ (source.token cache supply).2.2.2.posts,
        post.url = source.request.tokenUrl ∧
          post.form.Coherent post.url registration construction.method? construction.secret? := by
  obtain ⟨registration, material, hregistration, hmaterial, rfl⟩ := construction.source_eq hsource
  have hforms : ∀ supply form, ((registration.source material).form supply).1 = .ok form →
      form.Coherent registration.endpoint.url registration construction.method?
        construction.secret? := by
    intro supply form hform
    rw [construction.method?_of_material? hmaterial]
    exact registration.form_coherent_of_material material hform
      fun s hs => construction.secret?_of_material? (hs ▸ hmaterial)
  rw [registration.source_tokenUrl]
  refine ⟨registration, hregistration, rfl, hforms, fun cache supply post hpost => ?_⟩
  obtain ⟨form, hform, rfl⟩ := (registration.source material).form_of_mem_posts hpost
  have hurl : ((registration.source material).postOf form).url = registration.endpoint.url :=
    registration.source_tokenUrl material
  rw [hurl]
  exact ⟨rfl, hforms supply form hform⟩

/-- Settings with a secret that has blanks around it. -/
def paddedSettings : Settings :=
  { Settings.default with
    cloudName := "GermanY"
    version := .v1
    tenantId := some " tenant "
    clientId := some " client "
    useSecret := true
    clientSecret := some " secret " }

/-- What the settings make a source for. -/
def paddedRegistration : Registration := ⟨.germany, .aadGraph, .v1, some " tenant ", " client "⟩

/-- The form that the source sends. -/
def paddedForm : Form :=
  [("grant_type", some "client_credentials"), ("client_id", some " client "),
    ("resource", some "https://graph.cloudapi.de/"), ("client_secret", some " secret ")]

/-- Blanks around the name of a client and around its secret are sent along. -/
theorem form_coherent_of_padded_secret :
    (Construction.bySettings (FileTree.read ⟨[]⟩) paddedSettings .aadGraph).authorizer =
        .ok (.client (paddedRegistration.source (.secret " secret "))) ∧
      (∀ supply, ((paddedRegistration.source (.secret " secret ")).form supply).1 = .ok paddedForm) ∧
      paddedForm.Coherent "https://login.microsoftonline.de/tenant/oauth2/token" paddedRegistration
        (some .clientSecret) (some " secret ") := by
  have hsource : (Construction.bySettings (FileTree.read ⟨[]⟩) paddedSettings .aadGraph).authorizer =
      .ok (.client (paddedRegistration.source (.secret " secret "))) := by
    rfl
  have hform : ∀ supply,
      ((paddedRegistration.source (.secret " secret ")).form supply).1 = .ok paddedForm := fun _ => rfl
  obtain ⟨registration, hregistration, -, hforms, -⟩ := form_coherent _ _ hsource
  have hsame : (Construction.bySettings (FileTree.read ⟨[]⟩) paddedSettings .aadGraph).registration? =
      some paddedRegistration := by
    rfl
  cases hsame.symm.trans hregistration
  exact ⟨hsource, hform, hforms ⟨0, fun _ => "", [], []⟩ _ (hform _)⟩

end CloudAuth
