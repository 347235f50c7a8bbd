import CloudAuth.Proofs.Masking
import CloudAuth.Proofs.Preference

/-!
# What does not depend on the secrets

Two settings that differ in their secrets alone are shown alike, leave the same records, and come to the
same: the same error, or authorizers that differ in the secret alone and whose runs differ in the value of
the secret in the forms alone. A password shows only in whether the bundle gives its credential with it,
and if it gives none, in which of its few failures is reported.
-/

namespace CloudAuth

/-- A text with more than blanks in it is not empty. -/
theorem Text.ne_nil_of_strip_ne_nil {t : Text} (hstrip : t.strip ≠ []) : t ≠ [] := by
  rintro rfl
  exact hstrip rfl

/-- Whether an error is one of the contents of a bundle that messages call `source`. Besides the name, such
an error tells only the kind of a key. -/
def DecodeError.IsOf (source : Text) : DecodeError → Prop
  | unreadable _ _ => False
  | corrupt called | noKey called | noCertificate called => called = source
  | unsupportedKey kind called => called = source ∧ ∃ key : PrivateKey, kind = key.kindName

namespace Credential

/-- Contents without a credential have one of the errors of contents. -/
theorem isOf_of_contents {source : Text} {contents : BundleContents} {e : DecodeError}
    (hcontents : ofContents source contents = .error e) : e.IsOf source := by
  unfold ofContents at hcontents
  split at hcontents
  · cases hcontents
    rfl
  · split at hcontents
    · cases hcontents
      rfl
    · split at hcontents
      · contradiction
      · cases hcontents
        exact ⟨rfl, _, rfl⟩

/-- A bundle without a credential has one of the errors of its contents. -/
theorem isOf_of_decode {openBundle : BundleReader} {data : Bytes} {password : Option Text} {source : Text}
    {e : DecodeError} (hdecode : decode openBundle data password source = .error (.decode e)) :
    e.IsOf source := by
  unfold decode at hdecode
  split at hdecode
  · cases hdecode
  · split at hdecode
    · cases hdecode
      rfl
    · next contents hopen =>
      cases hcontents : ofContents source contents with
      | ok credential =>
        rw [hcontents] at hdecode
        contradiction
      | error d =>
        rw [hcontents] at hdecode
        cases hdecode
        exact isOf_of_contents hcontents

/-- A bundle that is loaded with neither of two passwords that can be encoded fails alike with both, or has
an error of its contents with each. -/
theorem load_errors_cases {platform : Platform} {given : GivenPath} {first second : Option Text}
    {secret secret' : Option Bytes} (hsecret : secretOf first = .ok secret)
    (hsecret' : secretOf second = .ok secret') {e f : Error}
    (hfirst : (load platform given first).1 = .error e)
    (hsecond : (load platform given second).1 = .error f) :
    e = f ∨ ∃ d d', e = .decode d ∧ f = .decode d' ∧ d.IsOf given.normal.text ∧
      d'.IsOf given.normal.text := by
  cases hname : given.normal.fileName with
  | error problem =>
    rw [load_of_unnamed given hname] at hfirst hsecond
    exact .inl (Except.error.inj (hfirst.symm.trans hsecond))
  | ok name =>
    cases hread : platform.readFile name with
    | error failure =>
      rw [load_of_unreadable given hname hread] at hfirst hsecond
      exact .inl (Except.error.inj (hfirst.symm.trans hsecond))
    | ok data =>
      rw [load_of_read given hname hread] at hfirst hsecond
      obtain ⟨d, rfl⟩ := exists_of_decode_error hsecret hfirst
      obtain ⟨d', rfl⟩ := exists_of_decode_error hsecret' hsecond
      exact .inr ⟨d, d', rfl, rfl, isOf_of_decode hfirst, isOf_of_decode hsecond⟩

end Credential

namespace Settings

/-- Whether two settings differ in their secrets alone: in a secret that both have, and in a password
that both have and with which the same comes out of the bundle, if anything does. -/
structure DifferInSecrets (platform : Platform) (s t : Settings) : Prop where
  /-- All else is the same. -/
  rest : t = { s with
    clientSecret := t.clientSecret, certificatePassword := t.certificatePassword }
  /-- The secret is the same, or both have one that is not blank. -/
  secret : s.clientSecret = t.clientSecret ∨ ∃ a b, s.clientSecret = some a ∧
    t.clientSecret = some b ∧ a.strip ≠ [] ∧ b.strip ≠ []
  /-- The password is the same, or both have one that is not empty and can be encoded. -/
  password : s.certificatePassword = t.certificatePassword ∨ ∃ a b,
    s.certificatePassword = some a ∧ t.certificatePassword = some b ∧ a ≠ [] ∧ b ≠ [] ∧
      a.IsWhole ∧ b.IsWhole
  /-- The bundle gives the same credential with both passwords, or none with either. -/
  bundle : ∀ path, s.certificatePath = some path →
    (Credential.load platform (.path path) s.certificatePassword).1.toOption =
      (Credential.load platform (.path path) t.certificatePassword).1.toOption

/-- Secrets that are not empty are shown alike. -/
theorem shownSecret_of_ne_nil {t : Text} (hne : t ≠ []) :
    shownSecret (some t) = "SecretStr('**********')" := by
  simp [shownSecret, hne]

namespace DifferInSecrets

variable {platform : Platform} {s t : Settings} (h : DifferInSecrets platform s t)

include h

/-- The cloud is the same. -/
theorem cloudName_eq : s.cloudName = t.cloudName := by rw [h.rest]

/-- The bundle is the same. -/
theorem certificatePath_eq : s.certificatePath = t.certificatePath := by rw [h.rest]

/-- What a source is made for is the same. -/
theorem registration_eq (cloud : Cloud) (api : Api) :
    s.registration cloud api = t.registration cloud api := by
  rw [h.rest]
  rfl

/-- The settings are shown alike. -/
theorem shown_eq : s.shown = t.shown := by
  have hsecret : shownSecret s.clientSecret = shownSecret t.clientSecret := by
    rcases h.secret with heq | ⟨a, b, ha, hb, hstripped, hstripped'⟩
    · rw [heq]
    · rw [ha, hb, shownSecret_of_ne_nil (Text.ne_nil_of_strip_ne_nil hstripped),
        shownSecret_of_ne_nil (Text.ne_nil_of_strip_ne_nil hstripped')]
  have hpassword : shownSecret s.certificatePassword = shownSecret t.certificatePassword := by
    rcases h.password with heq | ⟨a, b, ha, hb, hne, hne', -, -⟩
    · rw [heq]
    · rw [ha, hb, shownSecret_of_ne_nil hne, shownSecret_of_ne_nil hne']
  have hversion : s.version = t.version := by rw [h.rest]
  have htenant : s.tenantId = t.tenantId := by rw [h.rest]
  have hclient : s.clientId = t.clientId := by rw [h.rest]
  have huseCertificate : s.useCertificate = t.useCertificate := by rw [h.rest]
  have huseSecret : s.useSecret = t.useSecret := by rw [h.rest]
  have huseCommandLine : s.useCommandLine = t.useCommandLine := by rw [h.rest]
  unfold shown
  rw [h.cloudName_eq, hversion, htenant, hclient, huseCertificate, h.certificatePath_eq, hpassword,
    huseSecret, hsecret, huseCommandLine]

/-- The same method is selected, and the same methods are passed over. -/
theorem select_eq : s.select = t.select := by
  have hpresent : isPresent s.clientSecret = isPresent t.clientSecret := by
    rcases h.secret with heq | ⟨a, b, ha, hb, hne, hne'⟩
    · rw [heq]
    · rw [ha, hb, (isPresent_iff _).mpr ⟨a, rfl, hne⟩, (isPresent_iff _).mpr ⟨b, rfl, hne'⟩]
  refine selectFrom_congr (fun method => ?_) (fun method => ?_) preference
  · rw [h.rest]
    cases method <;> rfl
  · cases method with
    | clientCertificate =>
      rw [h.rest]
      rfl
    | clientSecret =>
      rw [isReady, isReady, hpresent, h.rest]
      rfl
    | commandLine => rfl

/-- The cloud that is found is the same. -/
theorem cloud_eq : s.cloud = t.cloud := congrArg Cloud.find h.cloudName_eq

/-- The announcement of a method is the same. -/
theorem announcement_eq (api : Api) (method : AuthMethod) :
    s.announcement api method = t.announcement api method := by
  rw [announcement, announcement, h.select_eq]

end DifferInSecrets

end Settings

/-- Whether two authorizers differ in their secrets alone: they are shown alike, and their runs differ in
the value of the secret in forms alone, and in no log record. -/
structure Authorizer.Alike (first second : Authorizer) : Prop where
  /-- Without their secrets they are the same. -/
  masked_eq : first.masked = second.masked
  /-- Their requests are shown alike. -/
  shownRequest?_eq : first.shownRequest? = second.shownRequest?
  /-- Their runs are the same without the values of secrets. -/
  run_eq : ∀ state steps, maskedRun (first.run state steps) = maskedRun (second.run state steps)
  /-- The steps of their runs leave the same log records. -/
  logs_eq : ∀ state steps, (first.run state steps).map (fun call => call.2.logs) =
    (second.run state steps).map fun call => call.2.logs

/-- Authorizers that are the same without their secrets differ in these alone. -/
theorem Authorizer.alike_of_masked_eq {first second : Authorizer}
    (hmasked : first.masked = second.masked) : first.Alike second where
  masked_eq := hmasked
  shownRequest?_eq := by rw [← shownRequest?_masked, hmasked, shownRequest?_masked]
  run_eq := maskedRun_eq_of_masked_eq hmasked
  logs_eq state steps := by
    have hlogs (calls : List (Except Error StepResult × Trace)) :
        calls.map (fun call => call.2.logs) = (maskedRun calls).map fun call => call.2.logs := by
      simp [maskedRun]
    rw [hlogs, maskedRun_eq_of_masked_eq hmasked, ← hlogs]

/-- What two settings that differ in their secrets alone may come to. -/
inductive SameOutcome (platform : Platform) (s t : Settings) :
    Except Error Authorizer → Except Error Authorizer → Prop where
  /-- Both give an authorizer, and these differ in their secrets alone. -/
  | made {first second : Authorizer} (halike : first.Alike second) :
      SameOutcome platform s t (.ok first) (.ok second)
  /-- Both fail with the same error. -/
  | failed (e : Error) : SameOutcome platform s t (.error e) (.error e)
  /-- The bundle is selected and gives a credential with neither password. Each time the error of its
  contents is reported, and these are not the same. -/
  | unloaded {path : Path} {d d' : DecodeError} (hselect : s.select.1 = some .clientCertificate)
      (hpath : s.certificatePath = some path)
      (hfirst : (Credential.load platform (.path path) s.certificatePassword).1 = .error (.decode d))
      (hsecond : (Credential.load platform (.path path) t.certificatePassword).1 = .error (.decode d'))
      (hne : d ≠ d') (hd : d.IsOf path.text) (hd' : d'.IsOf path.text) :
      SameOutcome platform s t
        (.error (.configuration (.methodFailed .clientCertificate (.decode d))))
        (.error (.configuration (.methodFailed .clientCertificate (.decode d'))))

/-- Whatever settings come to is the same outcome as itself. -/
theorem SameOutcome.refl (platform : Platform) (s t : Settings) (result : Except Error Authorizer) :
    SameOutcome platform s t result result := by
  cases result with
  | error e => exact .failed e
  | ok authorizer => exact .made (Authorizer.alike_of_masked_eq rfl)

namespace Settings.DifferInSecrets

variable {platform : Platform} {s t : Settings} (h : DifferInSecrets platform s t)

include h

/-- Passwords that are not the same can both be encoded. -/
theorem secretOf_cases : s.certificatePassword = t.certificatePassword ∨ ∃ secret secret',
    Credential.secretOf s.certificatePassword = .ok secret ∧
      Credential.secretOf t.certificatePassword = .ok secret' := by
  refine h.password.imp_right ?_
  rintro ⟨a, b, ha, hb, -, -, hwhole, hwhole'⟩
  obtain ⟨secret, hsecret⟩ := (Credential.secretOf_isOk_iff s.certificatePassword).mpr fun u hu =>
    Option.some.inj (ha.symm.trans hu) ▸ hwhole
  obtain ⟨secret', hsecret'⟩ := (Credential.secretOf_isOk_iff t.certificatePassword).mpr fun u hu =>
    Option.some.inj (hb.symm.trans hu) ▸ hwhole'
  exact ⟨secret, secret', hsecret, hsecret'⟩

/-- From a bundle, the same comes of settings that differ in their secrets alone. -/
theorem sameOutcome_bundle {path : Path} {cloud : Cloud} (hcloud : s.cloud = .ok cloud)
    (hselect : s.select.1 = some .clientCertificate) (hpath : s.certificatePath = some path)
    (api : Api) :
    (Authorizer.build platform s api .clientCertificate).2 =
        (Authorizer.build platform t api .clientCertificate).2 ∧
      SameOutcome platform s t (Authorizer.build platform s api .clientCertificate).1
        (Authorizer.build platform t api .clientCertificate).1 := by
  have hcloud' : t.cloud = .ok cloud := h.cloud_eq ▸ hcloud
  have hpath' : t.certificatePath = some path := h.certificatePath_eq ▸ hpath
  have htrace := Credential.load_trace_eq platform (.path path) s.certificatePassword
    t.certificatePassword
  have hsame := h.bundle path hpath
  rcases hfirst : Credential.load platform (.path path) s.certificatePassword with ⟨loaded, trace⟩
  rcases hsecond : Credential.load platform (.path path) t.certificatePassword with ⟨loaded', trace'⟩
  rw [hfirst, hsecond] at htrace hsame
  obtain rfl : trace = trace' := htrace
  cases loaded with
  | ok credential =>
    cases loaded' with
    | error e => cases hsame
    | ok other =>
      obtain rfl : credential = other := Option.some.inj hsame
      rw [Authorizer.build_of_cloud hcloud (Authorizer.ofMethod_of_load hpath hfirst),
        Authorizer.build_of_cloud hcloud' (Authorizer.ofMethod_of_load hpath' hsecond),
        h.registration_eq]
      exact ⟨rfl, .refl ..⟩
  | error e =>
    cases loaded' with
    | ok other => cases hsame
    | error f =>
      rw [Authorizer.build_of_cloud hcloud (Authorizer.ofMethod_of_load_error hpath hfirst),
        Authorizer.build_of_cloud hcloud' (Authorizer.ofMethod_of_load_error hpath' hsecond)]
      have hfailed := congrArg Prod.fst hfirst
      have hfailed' := congrArg Prod.fst hsecond
      refine ⟨rfl, ?_⟩
      rcases h.secretOf_cases with heq | ⟨secret, secret', hsecret, hsecret'⟩
      · rw [heq, hsecond] at hfailed
        cases hfailed
        exact .refl ..
      · rcases Credential.load_errors_cases hsecret hsecret' hfailed hfailed' with
          rfl | ⟨d, d', rfl, rfl, hd, hd'⟩
        · exact .refl ..
        · by_cases hne : d = d'
          · rw [hne]
            exact .refl ..
          · exact .unloaded hselect hpath hfailed hfailed' hne hd hd'

/-- With a secret, the same comes of settings that differ in their secrets alone. -/
theorem sameOutcome_secret {cloud : Cloud} (hcloud : s.cloud = .ok cloud)
    (hselect : s.select.1 = some .clientSecret) (api : Api) :
    (Authorizer.build platform s api .clientSecret).2 = (Authorizer.build platform t api .clientSecret).2 ∧
      SameOutcome platform s t (Authorizer.build platform s api .clientSecret).1
        (Authorizer.build platform t api .clientSecret).1 := by
  have hcloud' : t.cloud = .ok cloud := h.cloud_eq ▸ hcloud
  have hready : isPresent s.clientSecret = true := by
    have hall := (isReady_iff s .clientSecret).mp (isReady_of_select hselect)
    exact hall _ (by simp [required])
  have hready' : isPresent t.clientSecret = true := by
    have hall := (isReady_iff t .clientSecret).mp (isReady_of_select (h.select_eq ▸ hselect))
    exact hall _ (by simp [required])
  obtain ⟨a, ha, hne⟩ := exists_of_isPresent hready
  obtain ⟨b, hb, hne'⟩ := exists_of_isPresent hready'
  rw [Authorizer.build_of_cloud hcloud (Authorizer.ofMethod_of_secret ha hne),
    Authorizer.build_of_cloud hcloud' (Authorizer.ofMethod_of_secret hb hne'), h.registration_eq]
  exact ⟨rfl, .made (Authorizer.alike_of_masked_eq rfl)⟩

/-- Settings that differ in their secrets alone agree for the command line, which takes no secret. -/
theorem agreeFor_commandLine : AgreeFor .commandLine s t := by
  refine ⟨h.cloudName_eq, ?_, ?_, ?_, nofun, nofun⟩
  · rw [h.rest]
  · rw [h.rest]
  · rw [h.rest]

/-- The same comes of settings that differ in their secrets alone, and the same is done. -/
theorem sameOutcome_ofSettings (api : Api) :
    (Authorizer.ofSettings platform s (.known api)).2 = (Authorizer.ofSettings platform t (.known api)).2 ∧
      SameOutcome platform s t (Authorizer.ofSettings platform s (.known api)).1
        (Authorizer.ofSettings platform t (.known api)).1 := by
  cases hselect : s.select.1 with
  | none =>
    have hselect' : t.select.1 = none := h.select_eq ▸ hselect
    rw [Authorizer.ofSettings_of_unselected hselect, Authorizer.ofSettings_of_unselected hselect',
      h.select_eq]
    exact ⟨rfl, .failed _⟩
  | some method =>
    have hselect' : t.select.1 = some method := h.select_eq ▸ hselect
    rw [Authorizer.ofSettings_of_select hselect, Authorizer.ofSettings_of_select hselect',
      h.announcement_eq]
    dsimp only
    suffices hbuild :
        (Authorizer.build platform s api method).2 = (Authorizer.build platform t api method).2 ∧
        SameOutcome platform s t (Authorizer.build platform s api method).1
          (Authorizer.build platform t api method).1 from
      ⟨congrArg (t.announcement api method ++ ·) hbuild.1, hbuild.2⟩
    cases hcloud : s.cloud with
    | error e =>
      rw [Authorizer.build_of_unknownCloud hcloud,
        Authorizer.build_of_unknownCloud (h.cloud_eq ▸ hcloud), h.cloudName_eq]
      exact ⟨rfl, .failed _⟩
    | ok cloud =>
      cases method with
      | clientCertificate =>
        have hall := (isReady_iff s .clientCertificate).mp (isReady_of_select hselect)
        have hpresent := hall (s.certificatePath.map Path.text) (by simp [required])
        obtain ⟨text, htext, -⟩ := exists_of_isPresent hpresent
        obtain ⟨path, hpath, -⟩ := Option.map_eq_some_iff.mp htext
        exact h.sameOutcome_bundle hcloud hselect hpath api
      | clientSecret => exact h.sameOutcome_secret hcloud hselect api
      | commandLine =>
        rw [h.agreeFor_commandLine.build_eq]
        exact ⟨rfl, .refl ..⟩

end Settings.DifferInSecrets

section TwoSecrets

/-- The settings of a client that has a bundle with a password, and a secret besides. -/
def Settings.ofSecrets (password secret : Text) : Settings :=
  { Settings.ofBundlePath "app.pfx" (some password) with
    useSecret := true
    clientSecret := some secret }

/-- The bundle that is not encrypted gives its credential with two passwords, too. -/
theorem load_signingPath_of_password : ∀ password ∈ (["first", "second"] : List String),
    (Credential.load signingFiles.platform signingPath (some (Text.ofString password))).1 =
      .ok signingCredential := by
  have hopens : ∀ password ∈ (["first", "second"] : List String),
      Bundle.open? signingBundle (some (Unicode.utf8 password)) =
        some ⟨some (.rsa signingKey), [signingCertificate]⟩ := by
    decide +kernel
  have hsecrets : ∀ password ∈ (["first", "second"] : List String),
      Credential.secretOf (some (Text.ofString password)) = .ok (some (Unicode.utf8 password)) := by
    decide +kernel
  intro password hpassword
  rw [Credential.load_of_read signingPath signingFiles_signingPath.1 signingFiles_signingPath.2,
    FileSystem.openBundle_platform, decode_signingBundle_of_open? (hsecrets password hpassword)
      (hopens password hpassword)]

/-- A bundle that holds nothing, under the password `right`. -/
def emptyBundle : Bytes :=
  [48, 65, 2, 1, 3, 48, 17, 6, 9, 42, 134, 72, 134, 247, 13, 1, 7, 1, 160, 4, 4, 2, 48, 0, 48, 41, 48,
    33, 48, 9, 6, 5, 43, 14, 3, 2, 26, 5, 0, 4, 20, 64, 165, 200, 201, 71, 10, 46, 225, 89, 248, 76, 248,
    154, 240, 210, 207, 165, 17, 163, 178, 4, 4, 115, 97, 108, 116]

/-- The password opens the bundle, and another one does not. -/
theorem open?_emptyBundle :
    Bundle.open? emptyBundle (some (Unicode.utf8 "right")) = some ⟨none, []⟩ ∧
      Bundle.open? emptyBundle (some (Unicode.utf8 "wrong")) = none := by
  decide +kernel

/-- With the password it is found that the bundle holds nothing, and with another one it is not opened. -/
theorem decode_emptyBundle (source : Text) :
    Credential.decode Bundle.open? emptyBundle (some "right") source = .error (.decode (.noKey source)) ∧
      Credential.decode Bundle.open? emptyBundle (some "wrong") source =
        .error (.decode (.corrupt source)) := by
  have hsecrets : Credential.secretOf (some "right") = .ok (some (Unicode.utf8 "right")) ∧
      Credential.secretOf (some "wrong") = .ok (some (Unicode.utf8 "wrong")) := by decide +kernel
  exact ⟨Credential.decode_of_opened hsecrets.1 open?_emptyBundle.1 source,
    Credential.decode_of_unopened hsecrets.2 open?_emptyBundle.2 source⟩

/-- A directory with a bundle that holds nothing. -/
def emptyBundleFiles : FileSystem := FileTree.read (.ofFiles [("app.pfx", emptyBundle)])

/-- The bundle gives no credential with either password, and each time another error. -/
theorem load_emptyBundle :
    (Credential.load emptyBundleFiles.platform signingPath (some "right")).1 =
        .error (.decode (.noKey signingPath.normal.text)) ∧
      (Credential.load emptyBundleFiles.platform signingPath (some "wrong")).1 =
        .error (.decode (.corrupt signingPath.normal.text)) := by
  have hfile : emptyBundleFiles (Unicode.utf8 "app.pfx") = .ok emptyBundle := rfl
  obtain ⟨hright, hwrong⟩ := decode_emptyBundle signingPath.normal.text
  rw [Credential.load_of_read signingPath signingFiles_signingPath.1 hfile,
    Credential.load_of_read signingPath signingFiles_signingPath.1 hfile,
    FileSystem.openBundle_platform, hright, hwrong]
  exact ⟨rfl, rfl⟩

/-- Two clients that differ in their secrets alone, if what comes out of the bundle is the same. -/
theorem differInSecrets_ofSecrets {platform : Platform} {password password' secret secret' : Text}
    (hpassword : password ≠ [] ∧ password.IsWhole) (hpassword' : password' ≠ [] ∧ password'.IsWhole)
    (hsecret : secret.strip ≠ []) (hsecret' : secret'.strip ≠ [])
    (hload : (Credential.load platform signingPath (some password)).1.toOption =
      (Credential.load platform signingPath (some password')).1.toOption) :
    Settings.DifferInSecrets platform (.ofSecrets password secret) (.ofSecrets password' secret') := by
  refine ⟨rfl, .inr ⟨secret, secret', rfl, rfl, hsecret, hsecret'⟩, .inr ⟨password, password', rfl, rfl,
    hpassword.1, hpassword'.1, hpassword.2, hpassword'.2⟩, ?_⟩
  rintro path ⟨⟩
  exact hload

/-- What a client comes to that has a bundle is what comes out of the bundle. -/
theorem ofSettings_ofSecrets (platform : Platform) (password secret : Text) :
    (∀ credential, (Credential.load platform signingPath (some password)).1 = .ok credential →
      ∃ source, (Authorizer.ofSettings platform (.ofSecrets password secret) (.known .msGraph)).1 =
        .ok (.client source)) ∧
    ∀ d, (Credential.load platform signingPath (some password)).1 = .error (.decode d) →
      (Authorizer.ofSettings platform (.ofSecrets password secret) (.known .msGraph)).1 =
        .error (.configuration (.methodFailed .clientCertificate (.decode d))) := by
  have hselect : (Settings.ofSecrets password secret).select.1 = some .clientCertificate := rfl
  have hcloud : (Settings.ofSecrets password secret).cloud = .ok .worldwide := rfl
  have hpath : (Settings.ofSecrets password secret).certificatePath = some signingPath.normal := rfl
  exact ⟨fun credential hload => ⟨_, Authorizer.ofSettings_of_load hselect hcloud hpath hload⟩,
    fun d hload => Authorizer.ofSettings_of_load_error hselect hcloud hpath hload⟩

end TwoSecrets

end CloudAuth
