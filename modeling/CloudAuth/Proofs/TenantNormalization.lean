import CloudAuth.Proofs.Preference

/-!
# Tenants and the blanks around them

The tenant is looked at in three places, each of which takes off the blanks around it in its own way: a
method that needs it is not selected for a blank one, the address of an endpoint stands in `common` for a
blank one, and the command line takes a blank one for none. All three see of the tenant only what is left
between the blanks. So a tenant that is blank where one is needed never gets as far as the address.
-/

namespace CloudAuth

/-- What is left of a tenant between its blanks; nothing is left of no tenant. -/
def bareTenant (tenant : Option Text) : Text := Text.strip (tenant.getD [])

/-- A value is present exactly when something is left of it. -/
theorem Settings.isPresent_iff_bareTenant (value : Option Text) :
    isPresent value = true ↔ bareTenant value ≠ [] := by
  rw [isPresent_iff]
  cases value with
  | none =>
    have hstrip : bareTenant none = [] := rfl
    simp [hstrip]
  | some t => simp [bareTenant]

/-- The tenant in an address is what is left of it, or `common` if nothing is. -/
theorem normalTenant_eq (tenant : Option Text) :
    normalTenant tenant = if bareTenant tenant = [] then Text.ofString "common" else bareTenant tenant := by
  simp only [normalTenant, List.isEmpty_iff]
  rfl

/-- The tenant of the command line is what is left of it, if anything is. -/
theorem CommandLineSource.givenTenant_eq (tenant : Option Text) :
    givenTenant tenant = if bareTenant tenant = [] then none else some (bareTenant tenant) := by
  cases tenant with
  | none => rfl
  | some t =>
    rw [givenTenant, Option.map_some, Option.filter_some, bareTenant, Option.getD_some]
    by_cases hempty : Text.strip t = [] <;> simp [hempty]

section SameTenant

variable {a b : Option Text} (htenant : bareTenant a = bareTenant b)

include htenant

/-- The endpoint is the same. -/
theorem Endpoint.derive_congr (cloud : Cloud) (api : ApiChoice) (version : Option TokenVersion) :
    derive cloud api a version = derive cloud api b version := by
  rw [derive, derive, tokenUrl, tokenUrl, normalTenant_eq, normalTenant_eq, htenant]

/-- The same method is selected, and the same methods are passed over. -/
theorem Settings.select_congr (settings : Settings) :
    { settings with tenantId := a }.select = { settings with tenantId := b }.select := by
  have hpresent : isPresent a = isPresent b := by
    rw [Bool.eq_iff_iff, isPresent_iff_bareTenant, isPresent_iff_bareTenant, htenant]
  refine selectFrom_congr (fun method => ?_) (fun method => ?_) preference
  · cases method <;> rfl
  · cases method <;> simp only [isReady, hasIdentity, hpresent]

namespace Authorizer

/-- What is made from a bundle is the same. -/
theorem ofBundle_congr (platform : Platform) (cloud : Cloud) (api : ApiChoice)
    (version : Option TokenVersion) (clientId : Text) (path : GivenPath) (password : Option Text) :
    ofBundle platform cloud api version a clientId path password =
      ofBundle platform cloud api version b clientId path password := by
  have hcredential : ofCredential cloud api version a clientId =
      ofCredential cloud api version b clientId := by
    funext credential
    rw [ofCredential, ofCredential, Endpoint.derive_congr htenant]
  rw [ofBundle, ofBundle, hcredential]

/-- What a method makes is the same. -/
theorem ofMethod_congr (platform : Platform) (settings : Settings) (api : Api) (cloud : Cloud)
    (method : AuthMethod) :
    ofMethod platform { settings with tenantId := a } api cloud method =
      ofMethod platform { settings with tenantId := b } api cloud method := by
  cases method with
  | clientCertificate => exact ofBundle_congr htenant platform cloud _ _ _ _ _
  | clientSecret =>
    simp only [ofMethod, ofSecret]
    rw [Endpoint.derive_congr htenant]
  | commandLine =>
    simp only [ofMethod, ofCommandLine, CommandLineSource.make]
    rw [CommandLineSource.givenTenant_eq, CommandLineSource.givenTenant_eq, htenant]

/-- What is built for a method is the same. -/
theorem build_congr (platform : Platform) (settings : Settings) (api : Api) (method : AuthMethod) :
    build platform { settings with tenantId := a } api method =
      build platform { settings with tenantId := b } api method := by
  have hmethod := fun cloud => ofMethod_congr htenant platform settings api cloud method
  unfold build
  simp only [Settings.cloud, hmethod]

/-- What comes of the settings is the same. -/
theorem ofSettings_congr (platform : Platform) (settings : Settings) (api : ApiChoice) :
    ofSettings platform { settings with tenantId := a } api =
      ofSettings platform { settings with tenantId := b } api :=
  Settings.ofSettings_eq_of_build_eq (Settings.select_congr htenant settings)
    (fun method _ api => build_congr htenant platform settings api method) api

end Authorizer

end SameTenant

/-- A method that needs a tenant is selected only if something is left of the tenant. -/
theorem Settings.bareTenant_ne_nil_of_select {settings : Settings} {method : AuthMethod}
    (hselect : settings.select.1 = some method) (hmethod : method ≠ .commandLine) :
    bareTenant settings.tenantId ≠ [] := by
  have hready := isReady_of_select hselect
  rw [← isPresent_iff_bareTenant]
  cases method with
  | clientCertificate =>
    rw [isReady, hasIdentity, Bool.and_eq_true, Bool.and_eq_true] at hready
    exact hready.1.1
  | clientSecret =>
    rw [isReady, hasIdentity, Bool.and_eq_true, Bool.and_eq_true] at hready
    exact hready.1.1
  | commandLine => contradiction

/-- The address for a tenant of which something is left has what is left in it. -/
theorem Settings.registration_url {settings : Settings} (htenant : bareTenant settings.tenantId ≠ [])
    (cloud : Cloud) (api : Api) :
    (settings.registration cloud api).endpoint.url =
      cloud.authority ++ "/" ++ bareTenant settings.tenantId ++ "/oauth2" ++
        (if settings.version = .v2 then Text.ofString "/v2.0" else []) ++ "/token" := by
  change tokenUrl cloud.authority settings.tenantId (some settings.version) = _
  rw [tokenUrl, normalTenant_eq, if_neg htenant, versionSegment]
  simp only [Option.some.injEq]

/-- What is made by any other method than the command line is a source for what the settings say. -/
theorem Authorizer.source_of_ofSettings {platform : Platform} {settings : Settings} {api : ApiChoice}
    {method : AuthMethod} (hselect : settings.select.1 = some method) (hmethod : method ≠ .commandLine)
    {authorizer : Authorizer} (hmade : (ofSettings platform settings api).1 = .ok authorizer) :
    ∃ known cloud material, api = .known known ∧ settings.cloud = .ok cloud ∧
      authorizer = .client ((settings.registration cloud known).source material) := by
  cases api with
  | other v =>
    unfold ofSettings at hmade
    split at hmade <;> cases hmade
  | known api =>
    have hway := resolution_ofSettings platform settings api
    generalize ofSettings platform settings (.known api) = made at hway hmade
    cases hway with
    | unselected hchosen => cases hmade
    | unknownCloud hchosen hcloud => cases hmade
    | unloaded hchosen hcloud hpath hload => cases hmade
    | certificate hchosen hcloud hpath hload =>
      cases hmade
      exact ⟨api, _, _, rfl, hcloud, rfl⟩
    | secret hchosen hcloud hsecret =>
      cases hmade
      exact ⟨api, _, _, rfl, hcloud, rfl⟩
    | invalidTenant hchosen hcloud htenant hname => cases hmade
    | commandLine hchosen hcloud hallowed =>
      exact absurd (Option.some.inj (hselect.symm.trans hchosen)) hmethod

/-- What is made by the command line is a session for what is left of the tenant, or a report of it. -/
theorem Authorizer.ofSettings_of_commandLine {platform : Platform} {settings : Settings} {api : Api}
    {cloud : Cloud} (hselect : settings.select.1 = some .commandLine)
    (hcloud : settings.cloud = .ok cloud) :
    ofSettings platform settings (.known api) =
      if ∀ c ∈ bareTenant settings.tenantId,
          ∃ d, c = .scalar d ∧ (d.isAlphanum = true ∨ d = '-' ∨ d = '.') then
        (.ok (.commandLine ⟨[cloud.endpoint api ++ scopeSuffix],
            CommandLineSource.givenTenant settings.tenantId⟩),
          settings.announcement api .commandLine ++
            [.commandLineOpened (CommandLineSource.givenTenant settings.tenantId)])
      else
        (.error (.configuration (.methodFailed .commandLine
            (.setup (.invalidTenant (bareTenant settings.tenantId))))),
          settings.announcement api .commandLine) := by
  have hallowed := CommandLineSource.givenTenant_all_iff settings.tenantId
  rw [ofSettings_of_select hselect]
  split
  · rename_i htenant
    rw [build_of_cloud hcloud (ofMethod_of_tenant (hallowed.mpr htenant))]
    rfl
  · rename_i htenant
    obtain ⟨name, hname⟩ := not_forall.mp (mt hallowed.mp htenant)
    obtain ⟨hgiven, hrefused⟩ := Classical.not_imp.mp hname
    rw [Bool.not_eq_true] at hrefused
    rw [build_of_cloud hcloud (ofMethod_of_invalidTenant hgiven hrefused), List.append_nil]
    rw [CommandLineSource.givenTenant_eq] at hgiven
    split at hgiven
    · cases hgiven
    · rw [Option.some.inj hgiven]
      rfl

/-- The tenant counts only by what is left of it between its blanks, and none at all counts as a blank
one: the same method is selected, with the same records, and the same authorizer or error comes out. A
client source has what is left in its address, where it is never empty, so `common` is never put in for
it. The session of the command line is taken up for what is left if it is not empty, and without a tenant
otherwise; what it does not take is reported. -/
theorem tenant_counts_between_blanks (platform : Platform) (settings : Settings) (api : ApiChoice) :
    (∀ a b, bareTenant a = bareTenant b →
      { settings with tenantId := a }.select = { settings with tenantId := b }.select ∧
      Authorizer.ofSettings platform { settings with tenantId := a } api =
        Authorizer.ofSettings platform { settings with tenantId := b } api) ∧
    (∀ method, settings.select.1 = some method → method ≠ .commandLine →
      bareTenant settings.tenantId ≠ [] ∧
      ∀ authorizer, (Authorizer.ofSettings platform settings api).1 = .ok authorizer →
        ∃ cloud source, settings.cloud = .ok cloud ∧ authorizer = .client source ∧
          source.request.tokenUrl = cloud.authority ++ "/" ++ bareTenant settings.tenantId ++
            "/oauth2" ++ (if settings.version = .v2 then Text.ofString "/v2.0" else []) ++ "/token") ∧
    ∀ known cloud, api = .known known → settings.select.1 = some .commandLine →
      settings.cloud = .ok cloud →
      let tenant := bareTenant settings.tenantId
      let given := if tenant = [] then none else some tenant
      ((∀ c ∈ tenant, ∃ d, c = .scalar d ∧ (d.isAlphanum = true ∨ d = '-' ∨ d = '.')) →
        Authorizer.ofSettings platform settings api =
          (.ok (.commandLine ⟨[cloud.endpoint known ++ "/.default"], given⟩),
            settings.announcement known .commandLine ++ [.commandLineOpened given])) ∧
      (¬ (∀ c ∈ tenant, ∃ d, c = .scalar d ∧ (d.isAlphanum = true ∨ d = '-' ∨ d = '.')) →
        Authorizer.ofSettings platform settings api =
          (.error (.configuration (.methodFailed .commandLine (.setup (.invalidTenant tenant)))),
            settings.announcement known .commandLine)) := by
  refine ⟨fun a b htenant => ⟨Settings.select_congr htenant settings,
    Authorizer.ofSettings_congr htenant platform settings api⟩, ?_, ?_⟩
  · intro method hselect hmethod
    have htenant := Settings.bareTenant_ne_nil_of_select hselect hmethod
    refine ⟨htenant, fun authorizer hmade => ?_⟩
    obtain ⟨known, cloud, material, -, hcloud, rfl⟩ :=
      Authorizer.source_of_ofSettings hselect hmethod hmade
    refine ⟨cloud, _, hcloud, rfl, ?_⟩
    rw [Registration.source_tokenUrl, Settings.registration_url htenant]
  · rintro api cloud rfl hselect hcloud tenant given
    have hgiven : CommandLineSource.givenTenant settings.tenantId = given :=
      CommandLineSource.givenTenant_eq _
    rw [Authorizer.ofSettings_of_commandLine hselect hcloud, hgiven]
    exact ⟨fun hallowed => if_pos hallowed, fun hrefused => if_neg hrefused⟩

/-- The settings of a client of a tenant that has a secret, and otherwise may use the command line. -/
def Settings.ofTenant (tenant : Option Text) : Settings :=
  { Settings.default with
    tenantId := tenant
    clientId := some "c"
    useSecret := true
    clientSecret := some "secret"
    useCommandLine := true }

/-- A tenant with blanks around it comes to the same as the bare one, and a blank one to the same as
none. -/
theorem padded_tenant_counts_as_bare :
    bareTenant (some "\u2003t\n") = bareTenant (some "t") ∧ bareTenant (some " \u00a0") = bareTenant none ∧
      Authorizer.ofSettings signingFiles.platform (.ofTenant (some "\u2003t\n")) (.known .msGraph) =
        Authorizer.ofSettings signingFiles.platform (.ofTenant (some "t")) (.known .msGraph) ∧
      (∃ source, (Authorizer.ofSettings signingFiles.platform (.ofTenant (some "\u2003t\n"))
          (.known .msGraph)).1 = .ok (.client source) ∧
        source.request.tokenUrl = "https://login.microsoftonline.com/t/oauth2/v2.0/token") ∧
      (Authorizer.ofSettings signingFiles.platform (.ofTenant (some " \u00a0")) (.known .msGraph)).1 =
        .ok (.commandLine ⟨["https://graph.microsoft.com/.default"], none⟩) := by
  have hpadded : bareTenant (some "\u2003t\n") = bareTenant (some "t") := by decide +kernel
  have hblank : bareTenant (some " \u00a0") = bareTenant none := by decide +kernel
  have hcloud (tenant : Option Text) : (Settings.ofTenant tenant).cloud = .ok .worldwide := by
    change Cloud.find "global" = _
    decide +kernel
  obtain ⟨hsame, haddress, -⟩ :=
    tenant_counts_between_blanks signingFiles.platform (.ofTenant (some "\u2003t\n")) (.known .msGraph)
  obtain ⟨-, -, hsession⟩ :=
    tenant_counts_between_blanks signingFiles.platform (.ofTenant (some " \u00a0")) (.known .msGraph)
  refine ⟨hpadded, hblank, (hsame _ _ hpadded).2, ?_, ?_⟩
  · have hselect : (Settings.ofTenant (some "\u2003t\n")).select.1 = some .clientSecret := by
      decide +kernel
    have hmade : (Authorizer.ofSettings signingFiles.platform (.ofTenant (some "\u2003t\n"))
        (.known .msGraph)).1 =
          .ok (.client (((Settings.ofTenant (some "\u2003t\n")).registration .worldwide .msGraph).source
            (.secret "secret"))) := by
      rw [Authorizer.ofSettings_of_select hselect,
        Authorizer.build_of_cloud (hcloud _) (Authorizer.ofMethod_of_secret rfl (by decide))]
      rfl
    obtain ⟨cloud, source, hfound, hclient, hurl⟩ := (haddress _ hselect nofun).2 _ hmade
    have htenant : bareTenant (some "\u2003t\n") = "t" := by decide +kernel
    cases (hcloud _).symm.trans hfound
    refine ⟨source, hmade.trans (congrArg _ hclient), hurl.trans ?_⟩
    change _ ++ _ ++ bareTenant (some "\u2003t\n") ++ _ ++ _ ++ _ = _
    rw [htenant]
    decide +kernel
  · have hselect : (Settings.ofTenant (some " \u00a0")).select.1 = some .commandLine := by
      decide +kernel
    have hempty : bareTenant (Settings.ofTenant (some " \u00a0")).tenantId = [] := by decide +kernel
    have hscope : Cloud.worldwide.endpoint .msGraph ++ "/.default" =
        "https://graph.microsoft.com/.default" := by decide +kernel
    have hmade := (hsession _ _ rfl hselect (hcloud _)).1 (by rw [hempty]; exact nofun)
    rw [hmade, if_pos hempty, hscope]

end CloudAuth
