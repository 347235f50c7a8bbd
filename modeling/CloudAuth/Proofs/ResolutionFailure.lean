import CloudAuth.Proofs.BundleSigning
import CloudAuth.Proofs.TextEncoding

/-!
# When settings give an authorizer

Settings give an authorizer exactly when a method is selected, the cloud is known, and the bundle or the
tenant is one that the method can use. All else is an error of the configuration that names its cause, but
for two ways: a path that names no file, and a password that cannot be encoded for a bundle that can be
read, are faults.
-/

namespace CloudAuth

namespace Credential

/-- An empty password stands for the same secret as no password does. -/
theorem secretOf_filter (password : Option Text) :
    secretOf (password.filter (!·.isEmpty)) = secretOf password := by
  cases password with
  | none => rfl
  | some t => by_cases hempty : t.isEmpty <;> simp [Option.filter_some, hempty, secretOf]

/-- What comes out of a bundle is the same for an empty password and for none. -/
theorem decode_filter (openBundle : BundleReader) (data : Bytes) (password : Option Text)
    (source : Text) :
    decode openBundle data (password.filter (!·.isEmpty)) source =
      decode openBundle data password source := by
  unfold decode
  rw [secretOf_filter]

/-- A password has no secret exactly if it cannot be encoded. -/
theorem secretOf_eq_error_iff (password : Option Text) (e : EncodeError) :
    secretOf password = .error e ↔ ∃ t, password = some t ∧ t.encode = .error e := by
  cases password with
  | none => simp [secretOf]
  | some t =>
    cases t with
    | nil => simp [secretOf, Text.encode, Text.encodeFrom]
    | cons c rest =>
      simp only [secretOf, List.isEmpty_cons, Bool.false_eq_true, if_false, Option.some.injEq,
        exists_eq_left']
      cases Text.encode (c :: rest) <;> simp [Except.map]

/-- A password has a secret exactly if no surrogate stands alone in it. -/
theorem secretOf_isOk_iff (password : Option Text) :
    (∃ secret, secretOf password = .ok secret) ↔ ∀ t, password = some t → t.IsWhole := by
  cases hsecret : secretOf password with
  | error e =>
    obtain ⟨t, rfl, hencode⟩ := (secretOf_eq_error_iff password e).mp hsecret
    refine ⟨nofun, fun hall => ?_⟩
    obtain ⟨bytes, hbytes⟩ := (Text.encode_isOk_iff t).mpr (hall t rfl)
    cases hencode.symm.trans hbytes
  | ok secret =>
    refine ⟨fun _ t ht => (Text.encode_isOk_iff t).mp ?_, fun _ => ⟨secret, rfl⟩⟩
    cases hencode : t.encode with
    | ok bytes => exact ⟨bytes, rfl⟩
    | error e => cases hsecret.symm.trans ((secretOf_eq_error_iff password e).mpr ⟨t, ht, hencode⟩)

end Credential

namespace CommandLineSource

/-- A tenant is written in letters and digits of ASCII, hyphens and full stops. -/
theorem isTenantChar_iff (c : CodePoint) :
    isTenantChar c = true ↔ ∃ d, c = .scalar d ∧ (d.isAlphanum = true ∨ d = '-' ∨ d = '.') := by
  cases c with
  | scalar c =>
    simp only [isTenantChar, Char.isAlphanum, Char.isAlpha, Char.isUpper, Char.isLower, Char.isDigit,
      Bool.or_eq_true, Bool.and_eq_true, decide_eq_true_eq, beq_iff_eq, Char.le_def,
      CodePoint.scalar.injEq, exists_eq_left']
    tauto
  | surrogate unit => simp [isTenantChar]

/-- The command line takes a tenant exactly when all characters between its blanks may stand in one. -/
theorem givenTenant_all_iff (tenant : Option Text) :
    (∀ name, givenTenant tenant = some name → name.all isTenantChar = true) ↔
      ∀ c ∈ Text.strip (tenant.getD []),
        ∃ d, c = .scalar d ∧ (d.isAlphanum = true ∨ d = '-' ∨ d = '.') := by
  simp only [List.all_eq_true, isTenantChar_iff]
  unfold givenTenant
  cases tenant with
  | none =>
    have hstrip : Text.strip [] = [] := rfl
    simp [hstrip]
  | some t =>
    rw [Option.map_some, Option.getD_some, Option.filter_some]
    by_cases hempty : Text.strip t = []
    · simp [hempty]
    · simp [hempty]

end CommandLineSource

namespace Settings

/-- The password of the bundle; an empty one is none. -/
def givenPassword (settings : Settings) : Option Text :=
  settings.certificatePassword.filter (!·.isEmpty)

/-- What a method that is selected needs in order to give an authorizer. -/
def Suits (platform : Platform) (settings : Settings) : AuthMethod → Prop
  | .clientCertificate => ∃ path name data credential, settings.certificatePath = some path ∧
      path.fileName = .ok name ∧ platform.readFile name = .ok data ∧
        Credential.decode platform.openBundle data settings.givenPassword path.text = .ok credential
  | .clientSecret => True
  | .commandLine => ∀ c ∈ Text.strip (settings.tenantId.getD []),
      ∃ d, c = .scalar d ∧ (d.isAlphanum = true ∨ d = '-' ∨ d = '.')

/-- Why the bundle of the settings gives no credential. -/
inductive BundleFailure (platform : Platform) (settings : Settings) : DecodeError → Prop where
  /-- Nothing can be read at its path. -/
  | unreadable {path : Path} {name : Bytes} {failure : ReadFailure}
      (hpath : settings.certificatePath = some path) (hname : path.fileName = .ok name)
      (hread : platform.readFile name = .error failure) :
      BundleFailure platform settings (.unreadable path failure)
  /-- No credential comes out of what is read. -/
  | undecodable {path : Path} {name data : Bytes} {e : DecodeError}
      (hpath : settings.certificatePath = some path) (hname : path.fileName = .ok name)
      (hread : platform.readFile name = .ok data)
      (hdecode : Credential.decode platform.openBundle data settings.givenPassword path.text =
        .error (.decode e)) :
      BundleFailure platform settings e

/-- Why the bundle of the settings is not even opened. -/
inductive BundleFault (platform : Platform) (settings : Settings) : Fault → Prop where
  /-- Its path cannot be encoded. -/
  | unencodablePath {path : Path} {e : EncodeError} (hpath : settings.certificatePath = some path)
      (hencode : path.text.encodeName = .error e) : BundleFault platform settings (.unencodable e)
  /-- Its path can be encoded, but holds the character zero. -/
  | nulInPath {path : Path} (hpath : settings.certificatePath = some path)
      (hencode : path.text.IsNameable) (hnul : Text.nul ∈ path.text) :
      BundleFault platform settings .nulInPath
  /-- It can be read, but its password cannot be encoded. -/
  | unencodablePassword {path : Path} {name data : Bytes} {password : Text} {e : EncodeError}
      (hpath : settings.certificatePath = some path) (hname : path.fileName = .ok name)
      (hread : platform.readFile name = .ok data)
      (hpassword : settings.certificatePassword = some password) (hencode : password.encode = .error e) :
      BundleFault platform settings (.unencodable e)

/-- The settings select a bundle in a known cloud that is not even opened. -/
def FaultsWith (platform : Platform) (settings : Settings) (fault : Fault) : Prop :=
  settings.select.1 = some .clientCertificate ∧ (∃ cloud, settings.cloud = .ok cloud) ∧
    settings.BundleFault platform fault

end Settings

/-- What an error of the configuration was caused by. -/
def ConfigurationError.methodError? : ConfigurationError → Option MethodError
  | methodFailed _ cause => some cause
  | _ => none

namespace Settings

variable {platform : Platform} {settings : Settings} {path : Path}

/-- A bundle that fails is not loaded. -/
theorem load_of_bundleFailure {d : DecodeError} (hpath : settings.certificatePath = some path)
    (hfailure : settings.BundleFailure platform d) :
    (Credential.load platform (.path path) settings.certificatePassword).1 = .error (.decode d) := by
  cases hfailure with
  | unreadable hother hname hread =>
    cases hpath.symm.trans hother
    rw [Credential.load_of_unreadable (.path path) hname hread]
    rfl
  | undecodable hother hname hread hdecode =>
    cases hpath.symm.trans hother
    rw [givenPassword, Credential.decode_filter] at hdecode
    rw [Credential.load_of_read (.path path) hname hread]
    exact hdecode

/-- The bundle of the settings fails in one way at most. -/
theorem BundleFailure.unique {first second : DecodeError}
    (hfirst : settings.BundleFailure platform first) (hsecond : settings.BundleFailure platform second) :
    first = second := by
  obtain ⟨path, hpath⟩ : ∃ path, settings.certificatePath = some path := by
    cases hfirst with
    | unreadable hpath hname hread => exact ⟨_, hpath⟩
    | undecodable hpath hname hread hdecode => exact ⟨_, hpath⟩
  have hload := (load_of_bundleFailure hpath hfirst).symm.trans (load_of_bundleFailure hpath hsecond)
  exact Error.decode.inj (Except.error.inj hload)

/-- A bundle whose path names no file is not even opened. -/
theorem bundleFault_of_fileName (hpath : settings.certificatePath = some path) {problem : NameProblem}
    (hname : path.fileName = .error problem) : settings.BundleFault platform problem.fault := by
  rcases (path.fileName_eq_error_iff problem).mp hname with
    ⟨e, rfl, hencode⟩ | ⟨rfl, hencode, hnul⟩
  · exact .unencodablePath hpath hencode
  · exact .nulInPath hpath hencode hnul

/-- A bundle that is not even opened has a path that names no file, or can be read and has a password that
cannot be encoded. -/
theorem BundleFault.cases_of_path {fault : Fault} (hfault : settings.BundleFault platform fault)
    (hpath : settings.certificatePath = some path) :
    (∃ problem, path.fileName = .error problem ∧ fault = problem.fault) ∨
      ∃ name data e, path.fileName = .ok name ∧ platform.readFile name = .ok data ∧
        Credential.secretOf settings.certificatePassword = .error e ∧ fault = .unencodable e := by
  cases hfault with
  | unencodablePath hother hencode =>
    cases hpath.symm.trans hother
    exact .inl ⟨_, (path.fileName_eq_error_iff _).mpr (.inl ⟨_, rfl, hencode⟩), rfl⟩
  | nulInPath hother hencode hnul =>
    cases hpath.symm.trans hother
    exact .inl ⟨_, (path.fileName_eq_error_iff _).mpr (.inr ⟨rfl, hencode, hnul⟩), rfl⟩
  | unencodablePassword hother hname hread hpassword hencode =>
    cases hpath.symm.trans hother
    exact .inr ⟨_, _, _, hname, hread,
      (Credential.secretOf_eq_error_iff _ _).mpr ⟨_, hpassword, hencode⟩, rfl⟩

/-- A bundle that is not loaded is not even opened, or fails. -/
theorem bundleFailure_of_load_error {e : Error} {trace : Trace}
    (hpath : settings.certificatePath = some path)
    (hload : Credential.load platform (.path path) settings.certificatePassword = (.error e, trace)) :
    (∃ fault, e = .fault fault ∧ settings.BundleFault platform fault) ∨
      ∃ d, e = .decode d ∧ settings.BundleFailure platform d := by
  have hloading := Credential.loading_load platform (.path path) settings.certificatePassword
  rw [hload] at hloading
  cases hloading with
  | untried hname => exact .inl ⟨_, rfl, bundleFault_of_fileName hpath hname⟩
  | unreadable hname hread => exact .inr ⟨_, rfl, .unreadable hpath hname hread⟩
  | unencodable hname hread hsecret =>
    obtain ⟨password, hpassword, hencode⟩ := (Credential.secretOf_eq_error_iff _ _).mp hsecret
    exact .inl ⟨_, rfl, .unencodablePassword hpath hname hread hpassword hencode⟩
  | undecodable hname hread hdecode =>
    rw [← Credential.decode_filter] at hdecode
    exact .inr ⟨_, rfl, .undecodable hpath hname hread hdecode⟩

/-- A bundle that is not even opened is not loaded. -/
theorem load_of_bundleFault {fault : Fault} (hpath : settings.certificatePath = some path)
    (hfault : settings.BundleFault platform fault) :
    (Credential.load platform (.path path) settings.certificatePassword).1 = .error (.fault fault) := by
  rcases hfault.cases_of_path hpath with ⟨problem, hname, rfl⟩ | ⟨name, data, e, hname, hread, hsecret, rfl⟩
  · rw [Credential.load_of_unnamed (.path path) hname]
  · rw [Credential.load_of_read (.path path) hname hread, Credential.decode_of_unencodable hsecret]

/-- A bundle suits exactly when it is loaded. -/
theorem suits_iff_load (hpath : settings.certificatePath = some path) :
    settings.Suits platform .clientCertificate ↔ ∃ credential,
      (Credential.load platform (.path path) settings.certificatePassword).1 = .ok credential := by
  simp only [Suits, givenPassword, Credential.decode_filter]
  constructor
  · rintro ⟨other, name, data, credential, hother, hname, hread, hdecode⟩
    cases hpath.symm.trans hother
    exact ⟨credential, by rw [Credential.load_of_read (.path path) hname hread]; exact hdecode⟩
  · rintro ⟨credential, hload⟩
    obtain ⟨name, data, hname, hread, hdecode⟩ := Credential.decode_of_load hload
    exact ⟨path, name, data, credential, hpath, hname, hread, hdecode⟩

end Settings

section Settings

variable (platform : Platform) (settings : Settings) (api : Api)

/-- Settings give an authorizer exactly when a method is selected that suits them, in a cloud that is
known. -/
theorem ofSettings_isOk_iff :
    (∃ authorizer, (Authorizer.ofSettings platform settings (.known api)).1 = .ok authorizer) ↔
      ∃ method cloud, settings.select.1 = some method ∧ settings.cloud = .ok cloud ∧
        settings.Suits platform method := by
  have hway := resolution_ofSettings platform settings api
  generalize Authorizer.ofSettings platform settings (.known api) = call at hway ⊢
  cases hway with
  | unselected hselect => simp [hselect]
  | unknownCloud hselect hcloud => simp [hcloud]
  | unloaded hselect hcloud hpath hload =>
    refine ⟨(fun ⟨_, h⟩ => nomatch h), ?_⟩
    rintro ⟨method, -, hmethod, -, hsuits⟩
    cases hselect.symm.trans hmethod
    obtain ⟨credential, hloaded⟩ := (Settings.suits_iff_load hpath).mp hsuits
    rw [hload] at hloaded
    contradiction
  | certificate hselect hcloud hpath hload =>
    have hsuits := (Settings.suits_iff_load hpath).mpr ⟨_, congrArg Prod.fst hload⟩
    exact ⟨fun _ => ⟨_, _, hselect, hcloud, hsuits⟩, fun _ => ⟨_, rfl⟩⟩
  | secret hselect hcloud hsecret =>
    exact ⟨fun _ => ⟨_, _, hselect, hcloud, trivial⟩, fun _ => ⟨_, rfl⟩⟩
  | invalidTenant hselect hcloud htenant hname =>
    refine ⟨(fun ⟨_, h⟩ => nomatch h), ?_⟩
    rintro ⟨method, -, hmethod, -, hsuits⟩
    cases hselect.symm.trans hmethod
    have hall := (CommandLineSource.givenTenant_all_iff settings.tenantId).mpr hsuits _ htenant
    exact absurd (hname.symm.trans hall) (by decide)
  | commandLine hselect hcloud htenant =>
    have hsuits := (CommandLineSource.givenTenant_all_iff settings.tenantId).mp htenant
    exact ⟨fun _ => ⟨_, _, hselect, hcloud, hsuits⟩, fun _ => ⟨_, rfl⟩⟩

/-- Settings that select a bundle in a known cloud that is not even opened fail with a fault. -/
theorem ofSettings_of_faultsWith {fault : Fault} (hfaults : settings.FaultsWith platform fault) :
    (Authorizer.ofSettings platform settings (.known api)).1 = .error (.fault fault) := by
  obtain ⟨hselect, ⟨cloud, hcloud⟩, hfault⟩ := hfaults
  have hready := Settings.isReady_of_select hselect
  obtain ⟨path, hpath⟩ : ∃ path, settings.certificatePath = some path := by
    cases hfault with
    | unencodablePath hpath _ => exact ⟨_, hpath⟩
    | nulInPath hpath _ _ => exact ⟨_, hpath⟩
    | unencodablePassword hpath _ _ _ _ => exact ⟨_, hpath⟩
  exact Authorizer.ofSettings_of_load_error hselect hcloud hpath
    (Settings.load_of_bundleFault hpath hfault)

/-- An error of the configuration names its cause: the failure of the bundle if that is what went wrong,
nothing if no method was selected, and never a secret or material that is missing. A cloud that is not
known is named before a bundle that fails. -/
structure ConfigurationError.Explains (error : ConfigurationError) : Prop where
  /-- The cause is the cloud exactly when a method was selected and its cloud is not known. -/
  unknownCloud_iff : error.methodError? = some (.setup (.unknownCloud settings.cloudName)) ↔
    settings.select.1 ≠ none ∧ ∀ cloud, settings.cloud ≠ .ok cloud
  /-- The cause is a failure of the bundle exactly when the bundle is what failed. -/
  decode_iff : ∀ e, error.methodError? = some (.decode e) ↔
    settings.select.1 = some .clientCertificate ∧ (∃ cloud, settings.cloud = .ok cloud) ∧
      settings.BundleFailure platform e
  /-- There is no cause exactly when no method was selected. -/
  none_iff : error.methodError? = none ↔ settings.select.1 = none
  /-- The secret of a method that was selected is not missing. -/
  ne_missingSecret : error.methodError? ≠ some (.setup .missingSecret)
  /-- The key and the certificate of a method that was selected are not missing. -/
  ne_missingMaterial : error.methodError? ≠ some (.setup .missingMaterial)

/-- Settings that fail do so with a fault of their bundle, or with an error of the configuration that names
its cause. -/
theorem explains_of_ofSettings_error {error : Error}
    (herror : (Authorizer.ofSettings platform settings (.known api)).1 = .error error) :
    (∃ fault, error = .fault fault ∧ settings.FaultsWith platform fault) ∨
      ∃ e, error = .configuration e ∧ ConfigurationError.Explains platform settings e := by
  have hway := resolution_ofSettings platform settings api
  generalize Authorizer.ofSettings platform settings (.known api) = call at hway herror
  cases hway with
  | unselected hselect =>
    cases herror
    refine .inr ⟨_, rfl, ?_, ?_, ?_, nofun, nofun⟩
    all_goals simp [ConfigurationError.methodError?, hselect]
  | unknownCloud hselect hcloud =>
    cases herror
    refine .inr ⟨_, rfl, ?_, ?_, ?_, nofun, nofun⟩
    all_goals simp [ConfigurationError.methodError?, hselect, hcloud]
  | unloaded hselect hcloud hpath hload =>
    cases herror
    rcases Settings.bundleFailure_of_load_error hpath hload with
      ⟨fault, rfl, hfault⟩ | ⟨d, rfl, hfailure⟩
    · exact .inl ⟨fault, rfl, hselect, ⟨_, hcloud⟩, hfault⟩
    · refine .inr ⟨_, rfl, ?_, fun e => ⟨?_, ?_⟩, ?_, nofun, nofun⟩
      · simp [ConfigurationError.methodError?, hcloud]
      · rintro ⟨⟩
        exact ⟨hselect, ⟨_, hcloud⟩, hfailure⟩
      · rintro ⟨-, -, hother⟩
        rw [hother.unique hfailure]
        rfl
      · simp [ConfigurationError.methodError?, hselect]
  | certificate hselect hcloud hpath hload => cases herror
  | secret hselect hcloud hsecret => cases herror
  | invalidTenant hselect hcloud htenant hname =>
    cases herror
    refine .inr ⟨_, rfl, ?_, ?_, ?_, nofun, nofun⟩
    all_goals simp [ConfigurationError.methodError?, hselect, hcloud]
  | commandLine hselect hcloud htenant => cases herror

/-- Settings give an authorizer or fail with an error of the configuration exactly unless they fail with a
fault. -/
theorem settled_iff_not_faultsWith :
    ((∃ authorizer, (Authorizer.ofSettings platform settings (.known api)).1 = .ok authorizer) ∨
        ∃ e, (Authorizer.ofSettings platform settings (.known api)).1 = .error (.configuration e)) ↔
      ∀ fault, ¬ settings.FaultsWith platform fault := by
  constructor
  · intro hsettled fault hfaults
    rw [ofSettings_of_faultsWith platform settings api hfaults] at hsettled
    rcases hsettled with ⟨authorizer, h⟩ | ⟨e, h⟩
    · cases h
    · cases h
  · intro hopened
    cases hresult : (Authorizer.ofSettings platform settings (.known api)).1 with
    | ok authorizer => exact .inl ⟨authorizer, rfl⟩
    | error error =>
      rcases explains_of_ofSettings_error platform settings api hresult with
        ⟨fault, -, hfaults⟩ | ⟨e, rfl, -⟩
      · exact absurd hfaults (hopened fault)
      · exact .inr ⟨e, rfl⟩

end Settings

/-- The settings of a client whose bundle is at a path. -/
def Settings.ofBundlePath (path : Text) (password : Option Text) : Settings :=
  { Settings.default with
    tenantId := some "t"
    clientId := some "c"
    useCertificate := true
    certificatePath := some (Path.ofText path)
    certificatePassword := password }

/-- The settings of the bundle at its path give the source that signs with it. -/
theorem ofSettings_signingPath : ∃ source, (Authorizer.ofSettings signingFiles.platform
    (Settings.ofBundlePath "app.pfx" none) (.known .msGraph)).1 = .ok (.client source) := by
  have hcloud : (Settings.ofBundlePath "app.pfx" none).cloud = .ok .worldwide := rfl
  have hpath : (Settings.ofBundlePath "app.pfx" none).certificatePath = some signingPath.normal := rfl
  have hload := (Credential.load_normal _ signingPath none).trans load_signingPath
  exact ⟨_, Authorizer.ofSettings_of_load rfl hcloud hpath (congrArg Prod.fst hload)⟩

/-- A password of which one byte was no UTF-8. -/
def latinPassword : Text := [.scalar 'p', .surrogate 0xDCE4, .scalar 's', .scalar 's']

/-- Settings give an authorizer or fail with an error of the configuration, exactly unless they select a
bundle in a known cloud that is not even opened: its path cannot be encoded or holds the character zero, or
it can be read but its password cannot be encoded. Then they fail with that fault. -/
theorem authorizer_or_configurationError_iff (platform : Platform) (settings : Settings) (api : Api) :
    (((∃ authorizer, (Authorizer.ofSettings platform settings (.known api)).1 = .ok authorizer) ∨
        ∃ e, (Authorizer.ofSettings platform settings (.known api)).1 = .error (.configuration e)) ↔
      ∀ fault, ¬ settings.FaultsWith platform fault) ∧
    ∀ fault, settings.FaultsWith platform fault →
      (Authorizer.ofSettings platform settings (.known api)).1 = .error (.fault fault) := by
  exact ⟨settled_iff_not_faultsWith platform settings api,
    fun fault => ofSettings_of_faultsWith platform settings api⟩

/-- A path with the character zero is a fault. -/
theorem fault_of_nul_in_path :
    (Settings.ofBundlePath "a\x00b" none).FaultsWith signingFiles.platform .nulInPath ∧
      (Authorizer.ofSettings signingFiles.platform (Settings.ofBundlePath "a\x00b" none)
        (.known .msGraph)).1 = .error (.fault .nulInPath) := by
  have hfaults : (Settings.ofBundlePath "a\x00b" none).FaultsWith signingFiles.platform
      .nulInPath :=
    ⟨rfl, ⟨.worldwide, rfl⟩, .nulInPath rfl ((Text.encodeName_isOk_iff _).mp ⟨_, rfl⟩) (by decide)⟩
  exact ⟨hfaults, (authorizer_or_configurationError_iff _ _ .msGraph).2 _ hfaults⟩

/-- A path with the character zero is a fault, not an error of the configuration. -/
theorem not_configurationError_of_nul_in_path :
    ¬ ((∃ authorizer, (Authorizer.ofSettings signingFiles.platform
          (Settings.ofBundlePath "a\x00b" none) (.known .msGraph)).1 = .ok authorizer) ∨
        ∃ e, (Authorizer.ofSettings signingFiles.platform
          (Settings.ofBundlePath "a\x00b" none) (.known .msGraph)).1 = .error (.configuration e)) := by
  have hfault : (Authorizer.ofSettings signingFiles.platform
      (Settings.ofBundlePath "a\x00b" none) (.known .msGraph)).1 = .error (.fault .nulInPath) := rfl
  rw [hfault]
  rintro (⟨authorizer, h⟩ | ⟨e, h⟩)
  · cases h
  · cases h

end CloudAuth
