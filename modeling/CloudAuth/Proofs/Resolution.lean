import CloudAuth.Proofs.BundleContents
import CloudAuth.Proofs.Construction

/-!
# What settings lead to

`Credential.Loading` lists the ways in which loading a bundle can go, and `Resolution` those in which
making an authorizer by the settings can go, each with its result and its trace. `loading_load` and
`resolution_ofSettings` say that the lists are complete. Later proofs open the two operations through
them, or through the equation of a step that stands next to them.

A method that is selected has all that its source checks for, so no way leads to a missing secret, a
missing key or a missing certificate.
-/

namespace CloudAuth

namespace Credential

/-- The ways in which loading the bundle at a path can go. -/
inductive Loading (platform : Platform) (given : GivenPath) (password : Option Text) :
    Except Error Credential × Trace → Prop where
  /-- The path names no file, and is not even tried. -/
  | untried {problem : NameProblem} (hname : given.normal.fileName = .error problem) :
      Loading platform given password (.error (.fault problem.fault), [])
  /-- The file at the path cannot be read. -/
  | unreadable {name : Bytes} {failure : ReadFailure} (hname : given.normal.fileName = .ok name)
      (hread : platform.readFile name = .error failure) :
      Loading platform given password
        (.error (.decode (.unreadable given.normal failure)), [.fileRead given.normal])
  /-- The file is read, but the password cannot be encoded. -/
  | unencodable {name data : Bytes} {e : EncodeError} (hname : given.normal.fileName = .ok name)
      (hread : platform.readFile name = .ok data) (hsecret : secretOf password = .error e) :
      Loading platform given password
        (.error (.fault (.unencodable e)), [.fileRead given.normal, .log (decodingRecord given.normal)])
  /-- What is read gives no credential. -/
  | undecodable {name data : Bytes} {e : DecodeError} (hname : given.normal.fileName = .ok name)
      (hread : platform.readFile name = .ok data)
      (hdecode : decode platform.openBundle data password given.normal.text = .error (.decode e)) :
      Loading platform given password
        (.error (.decode e), [.fileRead given.normal, .log (decodingRecord given.normal)])
  /-- What is read gives a credential. -/
  | loaded {name data : Bytes} {credential : Credential} (hname : given.normal.fileName = .ok name)
      (hread : platform.readFile name = .ok data)
      (hdecode : decode platform.openBundle data password given.normal.text = .ok credential) :
      Loading platform given password
        (.ok credential, [.fileRead given.normal, .log (decodingRecord given.normal)])

/-- With a password that cannot be encoded nothing is decoded. -/
theorem decode_of_unencodable {password : Option Text} {e : EncodeError}
    (hsecret : secretOf password = .error e) (openBundle : BundleReader) (data : Bytes) (source : Text) :
    decode openBundle data password source = .error (.fault (.unencodable e)) := by
  unfold decode
  rw [hsecret]

/-- With any other password the errors are those of the bundle. -/
theorem exists_of_decode_error {openBundle : BundleReader} {data : Bytes} {password : Option Text}
    {source : Text} {secret : Option Bytes} {e : Error} (hsecret : secretOf password = .ok secret)
    (hdecode : decode openBundle data password source = .error e) : ∃ d, e = .decode d := by
  cases hopen : openBundle data secret with
  | none =>
    rw [decode_of_unopened hsecret hopen] at hdecode
    cases hdecode
    exact ⟨_, rfl⟩
  | some contents =>
    rw [decode_of_opened hsecret hopen] at hdecode
    cases hmade : ofContents source contents with
    | error d =>
      rw [hmade] at hdecode
      cases hdecode
      exact ⟨d, rfl⟩
    | ok credential =>
      rw [hmade] at hdecode
      contradiction

section Load

variable {platform : Platform} (given : GivenPath)

/-- A path that names no file is not even tried. -/
theorem load_of_unnamed {problem : NameProblem} (hname : given.normal.fileName = .error problem)
    (password : Option Text) : load platform given password = (.error (.fault problem.fault), []) := by
  simp only [load, hname]

/-- Where there is nothing to read, this is reported. -/
theorem load_of_unreadable {name : Bytes} (hname : given.normal.fileName = .ok name)
    {failure : ReadFailure} (hread : platform.readFile name = .error failure) (password : Option Text) :
    load platform given password =
      (.error (.decode (.unreadable given.normal failure)), [.fileRead given.normal]) := by
  simp only [load, hname, hread]

/-- What is read is decoded with the password. -/
theorem load_of_read {name : Bytes} (hname : given.normal.fileName = .ok name) {data : Bytes}
    (hread : platform.readFile name = .ok data) (password : Option Text) :
    load platform given password = (decode platform.openBundle data password given.normal.text,
      [.fileRead given.normal, .log (decodingRecord given.normal)]) := by
  simp only [load, hname, hread]

end Load

/-- A path gives the same as its normal form. -/
theorem load_normal (platform : Platform) (given : GivenPath) (password : Option Text) :
    load platform (.path given.normal) password = load platform given password := rfl

/-- Every loading goes in one of the listed ways. -/
theorem loading_load (platform : Platform) (given : GivenPath) (password : Option Text) :
    Loading platform given password (load platform given password) := by
  cases hname : given.normal.fileName with
  | error problem =>
    rw [load_of_unnamed given hname]
    exact .untried hname
  | ok name =>
    cases hread : platform.readFile name with
    | error failure =>
      rw [load_of_unreadable given hname hread]
      exact .unreadable hname hread
    | ok data =>
      rw [load_of_read given hname hread]
      cases hsecret : secretOf password with
      | error e =>
        rw [decode_of_unencodable hsecret]
        exact .unencodable hname hread hsecret
      | ok secret =>
        cases hdecode : decode platform.openBundle data password given.normal.text with
        | error e =>
          obtain ⟨d, rfl⟩ := exists_of_decode_error hsecret hdecode
          exact .undecodable hname hread hdecode
        | ok credential => exact .loaded hname hread hdecode

/-- What is read of the files does not depend on the password. -/
theorem load_trace_eq (platform : Platform) (given : GivenPath) (first second : Option Text) :
    (load platform given first).2 = (load platform given second).2 := by
  cases hname : given.normal.fileName with
  | error problem => rw [load_of_unnamed given hname, load_of_unnamed given hname]
  | ok name =>
    cases hread : platform.readFile name with
    | error failure => rw [load_of_unreadable given hname hread, load_of_unreadable given hname hread]
    | ok data => rw [load_of_read given hname hread, load_of_read given hname hread]

/-- A credential that is loaded has a key and a certificate. -/
theorem ne_nil_of_load {platform : Platform} {given : GivenPath} {password : Option Text}
    {credential : Credential} (hload : (load platform given password).1 = .ok credential) :
    credential.privateKey ≠ [] ∧ credential.certificate ≠ [] := by
  obtain ⟨name, data, -, -, hdecode⟩ := decode_of_load hload
  exact ne_nil_of_decode hdecode

end Credential

/-- A cloud that is not found is reported by the name that was looked up. -/
theorem Cloud.eq_unknownCloud_of_find {name : Text} {e : SetupError} (hfind : find name = .error e) :
    e = .unknownCloud name := by
  unfold find at hfind
  cases hfound : registry.find? (·.name == keyOf name) with
  | none =>
    rw [hfound] at hfind
    exact (Except.error.inj hfind).symm
  | some cloud =>
    rw [hfound] at hfind
    contradiction

/-- A value that is there is not empty. -/
theorem Settings.exists_of_isPresent {value : Option Text} (hpresent : isPresent value = true) :
    ∃ t, value = some t ∧ t ≠ [] := by
  cases value with
  | none => contradiction
  | some t =>
    refine ⟨t, rfl, ?_⟩
    rintro rfl
    contradiction

namespace Authorizer

/-- A request with the material for it gives a source that owns its session. -/
theorem ofRequest_of_checkMaterial {request : TokenRequest} {authType : AuthType}
    (hcheck : request.checkMaterial authType = .ok ()) :
    ofRequest request authType = .ok (.client ⟨request, authType, true⟩) := by
  unfold ofRequest TokenRequest.source
  rw [hcheck]
  rfl

/-- With a secret that is not empty a source is made. -/
theorem ofSecret_of_ne_nil (registration : Registration) {secret : Text} (hsecret : secret ≠ []) :
    ofSecret registration.cloud (.known registration.api) (some registration.version)
      registration.tenant registration.clientId (some secret) =
        .ok (.client (registration.source (.secret secret))) := by
  unfold ofSecret
  rw [registration.derive_eq]
  refine ofRequest_of_checkMaterial ?_
  simp [TokenRequest.checkMaterial, hsecret]

/-- With a key and a certificate a source is made. -/
theorem ofCredential_of_ne_nil (registration : Registration) {credential : Credential}
    (hkey : credential.privateKey ≠ []) (hcertificate : credential.certificate ≠ []) :
    ofCredential registration.cloud (.known registration.api) (some registration.version)
      registration.tenant registration.clientId credential =
        .ok (.client (registration.source (.credential credential))) := by
  unfold ofCredential
  rw [registration.derive_eq]
  refine ofRequest_of_checkMaterial ?_
  simp [TokenRequest.checkMaterial, TokenRequest.isGiven, hkey, hcertificate]

/-- Without a credential nothing is made from a bundle. -/
theorem ofBundle_of_load_error (registration : Registration) {platform : Platform} {path : GivenPath}
    {password : Option Text} {e : Error} {trace : Trace}
    (hload : Credential.load platform path password = (.error e, trace)) :
    ofBundle platform registration.cloud (.known registration.api) (some registration.version)
      registration.tenant registration.clientId path password = (.error e, trace) := by
  unfold ofBundle
  rw [hload]
  exact congrArg (Prod.mk _) (List.append_nil trace)

/-- With the credential in a bundle a source is made. -/
theorem ofBundle_of_load (registration : Registration) {platform : Platform} {path : GivenPath}
    {password : Option Text} {credential : Credential} {trace : Trace}
    (hload : Credential.load platform path password = (.ok credential, trace)) :
    ofBundle platform registration.cloud (.known registration.api) (some registration.version)
      registration.tenant registration.clientId path password =
        (.ok (.client (registration.source (.credential credential))), trace ++ [.sessionOpened]) := by
  obtain ⟨hkey, hcertificate⟩ := Credential.ne_nil_of_load (congrArg Prod.fst hload)
  unfold ofBundle
  rw [hload]
  dsimp only [Except.bind]
  rw [ofCredential_of_ne_nil registration hkey hcertificate]
  rfl

end Authorizer

namespace Settings

/-- What the settings make a source for, in a cloud. -/
def registration (settings : Settings) (cloud : Cloud) (api : Api) : Registration :=
  ⟨cloud, api, settings.version, settings.tenantId, settings.clientId.getD []⟩

/-- The records up to the setting up of a method. -/
def announcement (settings : Settings) (api : Api) (method : AuthMethod) : Trace :=
  .ofRecords (settings.select.2 ++ [Authorizer.useRecord method api])

end Settings

/-- The ways in which making an authorizer by the settings can go. -/
inductive Resolution (platform : Platform) (settings : Settings) (api : Api) :
    Except Error Authorizer × Trace → Prop where
  /-- No method is selected. -/
  | unselected (hselect : settings.select.1 = none) :
      Resolution platform settings api
        (.error (.configuration .noMethod), .ofRecords settings.select.2)
  /-- The cloud is not known. -/
  | unknownCloud {method : AuthMethod} (hselect : settings.select.1 = some method)
      (hcloud : settings.cloud = .error (.unknownCloud settings.cloudName)) :
      Resolution platform settings api
        (.error (.configuration (.methodFailed method (.setup (.unknownCloud settings.cloudName)))),
          settings.announcement api method)
  /-- The bundle gives no credential. -/
  | unloaded {cloud : Cloud} {path : Path} {e : Error} {trace : Trace}
      (hselect : settings.select.1 = some .clientCertificate) (hcloud : settings.cloud = .ok cloud)
      (hpath : settings.certificatePath = some path)
      (hload : Credential.load platform (.path path) settings.certificatePassword = (.error e, trace)) :
      Resolution platform settings api
        (.error (Authorizer.blame .clientCertificate e),
          settings.announcement api .clientCertificate ++ trace)
  /-- The bundle gives a credential to sign with. -/
  | certificate {cloud : Cloud} {path : Path} {credential : Credential} {trace : Trace}
      (hselect : settings.select.1 = some .clientCertificate) (hcloud : settings.cloud = .ok cloud)
      (hpath : settings.certificatePath = some path)
      (hload : Credential.load platform (.path path) settings.certificatePassword = (.ok credential, trace)) :
      Resolution platform settings api
        (.ok (.client ((settings.registration cloud api).source (.credential credential))),
          settings.announcement api .clientCertificate ++ (trace ++ [.sessionOpened]))
  /-- The secret is used. -/
  | secret {cloud : Cloud} {secret : Text} (hselect : settings.select.1 = some .clientSecret)
      (hcloud : settings.cloud = .ok cloud) (hsecret : settings.clientSecret = some secret) :
      Resolution platform settings api
        (.ok (.client ((settings.registration cloud api).source (.secret secret))),
          settings.announcement api .clientSecret ++ [.sessionOpened])
  /-- The command line does not take the tenant. -/
  | invalidTenant {cloud : Cloud} {name : Text}
      (hselect : settings.select.1 = some .commandLine) (hcloud : settings.cloud = .ok cloud)
      (htenant : CommandLineSource.givenTenant settings.tenantId = some name)
      (hname : name.all CommandLineSource.isTenantChar = false) :
      Resolution platform settings api
        (.error (.configuration (.methodFailed .commandLine (.setup (.invalidTenant name)))),
          settings.announcement api .commandLine)
  /-- The session of the command line is used. -/
  | commandLine {cloud : Cloud} (hselect : settings.select.1 = some .commandLine)
      (hcloud : settings.cloud = .ok cloud)
      (htenant : ∀ name, CommandLineSource.givenTenant settings.tenantId = some name →
        name.all CommandLineSource.isTenantChar = true) :
      Resolution platform settings api
        (.ok (.commandLine ⟨[cloud.endpoint api ++ scopeSuffix],
            CommandLineSource.givenTenant settings.tenantId⟩),
          settings.announcement api .commandLine ++
            [.commandLineOpened (CommandLineSource.givenTenant settings.tenantId)])

namespace Authorizer

variable {platform : Platform} {settings : Settings} {api : Api} {cloud : Cloud}

/-- Settings that select no method give no authorizer. -/
theorem ofSettings_of_unselected (hselect : settings.select.1 = none) :
    ofSettings platform settings (.known api) =
      (.error (.configuration .noMethod), .ofRecords settings.select.2) := by
  unfold ofSettings
  generalize settings.select = selection at hselect ⊢
  obtain ⟨selected, records⟩ := selection
  obtain rfl : selected = none := hselect
  rfl

/-- Settings that select a method give what is built for it, after the records of the selection. -/
theorem ofSettings_of_select {method : AuthMethod} (hselect : settings.select.1 = some method) :
    ofSettings platform settings (.known api) =
      ((build platform settings api method).1,
        settings.announcement api method ++ (build platform settings api method).2) := by
  unfold ofSettings Settings.announcement
  generalize settings.select = selection at hselect ⊢
  obtain ⟨selected, records⟩ := selection
  obtain rfl : selected = some method := hselect
  dsimp only

/-- In a cloud that is not known, nothing is built. -/
theorem build_of_unknownCloud {e : SetupError} (hcloud : settings.cloud = .error e)
    (method : AuthMethod) :
    build platform settings api method =
      (.error (.configuration (.methodFailed method (.setup (.unknownCloud settings.cloudName)))), []) := by
  obtain rfl : e = .unknownCloud settings.cloudName := Cloud.eq_unknownCloud_of_find hcloud
  unfold build
  rw [hcloud]
  rfl

/-- In a cloud that is known, what is built is what the method makes. -/
theorem build_of_cloud (hcloud : settings.cloud = .ok cloud) {method : AuthMethod}
    {made : Except Error Authorizer} {trace : Trace}
    (hmade : ofMethod platform settings api cloud method = (made, trace)) :
    build platform settings api method = (made.mapError (blame method), trace) := by
  unfold build
  rw [hcloud]
  dsimp only
  rw [hmade]

/-- Without a credential in the bundle of the settings nothing is made. -/
theorem ofMethod_of_load_error {path : Path} {e : Error} {trace : Trace}
    (hpath : settings.certificatePath = some path)
    (hload : Credential.load platform (.path path) settings.certificatePassword = (.error e, trace)) :
    ofMethod platform settings api cloud .clientCertificate = (.error e, trace) := by
  have hbundle := ofBundle_of_load_error (settings.registration cloud api) hload
  unfold ofMethod
  rw [hpath]
  exact hbundle

/-- With the credential in the bundle of the settings a source is made. -/
theorem ofMethod_of_load {path : Path} {credential : Credential} {trace : Trace}
    (hpath : settings.certificatePath = some path)
    (hload : Credential.load platform (.path path) settings.certificatePassword = (.ok credential, trace)) :
    ofMethod platform settings api cloud .clientCertificate =
      (.ok (.client ((settings.registration cloud api).source (.credential credential))),
        trace ++ [.sessionOpened]) := by
  have hbundle := ofBundle_of_load (settings.registration cloud api) hload
  unfold ofMethod
  rw [hpath]
  exact hbundle

/-- With the secret of the settings a source is made. -/
theorem ofMethod_of_secret {secret : Text} (hsecret : settings.clientSecret = some secret)
    (hne : secret ≠ []) :
    ofMethod platform settings api cloud .clientSecret =
      (.ok (.client ((settings.registration cloud api).source (.secret secret))), [.sessionOpened]) := by
  have hsource := ofSecret_of_ne_nil (settings.registration cloud api) hne
  unfold ofMethod
  rw [hsecret]
  exact congrArg opened hsource

/-- With a tenant that the command line does not take nothing is made. -/
theorem ofMethod_of_invalidTenant {name : Text}
    (htenant : CommandLineSource.givenTenant settings.tenantId = some name)
    (hname : name.all CommandLineSource.isTenantChar = false) :
    ofMethod platform settings api cloud .commandLine =
      (.error (.configuration (.setup (.invalidTenant name))), []) := by
  have hmake (scopes : List Text) :
      CommandLineSource.make scopes settings.tenantId = .error (.invalidTenant name) := by
    simp [CommandLineSource.make, htenant, hname]
  unfold ofMethod ofCommandLine scopes
  dsimp only [Cloud.endpointOf, Except.map]
  rw [hmake]
  rfl

/-- With any other tenant, or with none, the session of the command line is used. -/
theorem ofMethod_of_tenant
    (htenant : ∀ name, CommandLineSource.givenTenant settings.tenantId = some name →
      name.all CommandLineSource.isTenantChar = true) :
    ofMethod platform settings api cloud .commandLine =
      (.ok (.commandLine ⟨[cloud.endpoint api ++ scopeSuffix],
          CommandLineSource.givenTenant settings.tenantId⟩),
        [.commandLineOpened (CommandLineSource.givenTenant settings.tenantId)]) := by
  have hmake (scopes : List Text) : CommandLineSource.make scopes settings.tenantId =
      .ok ⟨scopes, CommandLineSource.givenTenant settings.tenantId⟩ := by
    unfold CommandLineSource.make
    cases hgiven : CommandLineSource.givenTenant settings.tenantId with
    | none => rfl
    | some name => simp only [htenant name hgiven, if_true]
  unfold ofMethod ofCommandLine scopes
  dsimp only [Cloud.endpointOf, Except.map]
  rw [hmake]
  rfl

section Load

variable {path : Path} (hselect : settings.select.1 = some .clientCertificate)
  (hcloud : settings.cloud = .ok cloud) (hpath : settings.certificatePath = some path)

include hselect hcloud hpath

/-- Settings that select a bundle with a credential give the source that signs with it. -/
theorem ofSettings_of_load {credential : Credential}
    (hload : (Credential.load platform (.path path) settings.certificatePassword).1 = .ok credential) :
    (ofSettings platform settings (.known api)).1 =
      .ok (.client ((settings.registration cloud api).source (.credential credential))) := by
  rw [ofSettings_of_select hselect,
    build_of_cloud hcloud (ofMethod_of_load hpath (Prod.ext hload rfl))]
  rfl

/-- Settings that select a bundle that is not loaded fail by it. -/
theorem ofSettings_of_load_error {e : Error}
    (hload : (Credential.load platform (.path path) settings.certificatePassword).1 = .error e) :
    (ofSettings platform settings (.known api)).1 = .error (blame .clientCertificate e) := by
  rw [ofSettings_of_select hselect,
    build_of_cloud hcloud (ofMethod_of_load_error hpath (Prod.ext hload rfl))]
  rfl

end Load

end Authorizer

/-- A method that is selected has what it needs. -/
theorem Settings.isReady_of_select {settings : Settings} {method : AuthMethod}
    (hselect : settings.select.1 = some method) : settings.isReady method = true :=
  (settings.selectFrom_eq_some hselect).2.2

/-- Making an authorizer by the settings goes in one of the listed ways. -/
theorem resolution_ofSettings (platform : Platform) (settings : Settings) (api : Api) :
    Resolution platform settings api (Authorizer.ofSettings platform settings (.known api)) := by
  cases hselect : settings.select.1 with
  | none =>
    rw [Authorizer.ofSettings_of_unselected hselect]
    exact .unselected hselect
  | some method =>
    rw [Authorizer.ofSettings_of_select hselect]
    have hready := Settings.isReady_of_select hselect
    cases hcloud : settings.cloud with
    | error e =>
      rw [Authorizer.build_of_unknownCloud hcloud, List.append_nil]
      exact .unknownCloud hselect (by rw [hcloud, Cloud.eq_unknownCloud_of_find hcloud])
    | ok cloud =>
      cases method with
      | clientCertificate =>
        obtain ⟨path, hpath⟩ : ∃ path, settings.certificatePath = some path := by
          cases hpath : settings.certificatePath with
          | none => simp [Settings.isReady, hpath, Settings.isPresent] at hready
          | some path => exact ⟨path, rfl⟩
        cases hload : Credential.load platform (.path path) settings.certificatePassword with
        | mk loaded trace =>
          cases loaded with
          | error e =>
            rw [Authorizer.build_of_cloud hcloud (Authorizer.ofMethod_of_load_error hpath hload)]
            exact .unloaded hselect hcloud hpath hload
          | ok credential =>
            rw [Authorizer.build_of_cloud hcloud (Authorizer.ofMethod_of_load hpath hload)]
            exact .certificate hselect hcloud hpath hload
      | clientSecret =>
        obtain ⟨secret, hsecret, hne⟩ : ∃ t, settings.clientSecret = some t ∧ t ≠ [] :=
          Settings.exists_of_isPresent (by simp_all [Settings.isReady])
        rw [Authorizer.build_of_cloud hcloud (Authorizer.ofMethod_of_secret hsecret hne)]
        exact .secret hselect hcloud hsecret
      | commandLine =>
        by_cases htenant : ∀ name, CommandLineSource.givenTenant settings.tenantId = some name →
            name.all CommandLineSource.isTenantChar = true
        · rw [Authorizer.build_of_cloud hcloud (Authorizer.ofMethod_of_tenant htenant)]
          exact .commandLine hselect hcloud htenant
        · push Not at htenant
          obtain ⟨name, hgiven, hname⟩ := htenant
          have hrefused := Bool.eq_false_iff.mpr hname
          rw [Authorizer.build_of_cloud hcloud
            (Authorizer.ofMethod_of_invalidTenant hgiven hrefused), List.append_nil]
          exact .invalidTenant hselect hcloud hgiven hrefused

end CloudAuth
