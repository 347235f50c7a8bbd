import CloudAuth.Proofs.ResolutionFailure

/-!
# The method that is preferred

The method that is selected is the first usable one, and it alone decides what comes of the settings:
what they say of the other methods changes neither the authorizer nor the error, and no other method is
tried after one that fails. A session is opened only with the authorizer that owns it, a file is read
only for a bundle, and the session of the command line is taken up only for the method of that name.
-/

namespace CloudAuth

namespace Text

/-- Nothing is left of a text between its blanks exactly when there is nothing but blanks. -/
theorem strip_eq_nil_iff (t : Text) : t.strip = [] ↔ ∀ c ∈ t, c.isBlank = true := by
  rw [strip, List.reverse_eq_nil_iff, List.dropWhile_eq_nil_iff]
  simp only [List.mem_reverse]
  constructor
  · intro hrest c hc
    rw [← List.takeWhile_append_dropWhile (p := CodePoint.isBlank) (l := t), List.mem_append] at hc
    rcases hc with hc | hc
    · exact List.mem_takeWhile_imp hc
    · exact hrest c hc
  · intro hall c hc
    exact hall c ((List.dropWhile_sublist CodePoint.isBlank).subset hc)

/-- A text is blank exactly when nothing is left of it between its blanks. -/
theorem isBlankText_iff (t : Text) : isBlankText t = true ↔ t.strip = [] := by
  rw [strip_eq_nil_iff, isBlankText, List.all_eq_true]

end Text

namespace Settings

/-- The values that a method needs. -/
def required (settings : Settings) : AuthMethod → List (Option Text)
  | .clientCertificate =>
    [settings.tenantId, settings.clientId, settings.certificatePath.map Path.text]
  | .clientSecret => [settings.tenantId, settings.clientId, settings.clientSecret]
  | .commandLine => []

/-- Whether a method may be used and has all that it needs: values with more than blanks in them. -/
def Usable (settings : Settings) (method : AuthMethod) : Prop :=
  settings.isEnabled method = true ∧
    ∀ value ∈ settings.required method, ∃ t, value = some t ∧ t.strip ≠ []

/-- A value is present exactly when it is there with more than blanks in it. -/
theorem isPresent_iff (value : Option Text) :
    isPresent value = true ↔ ∃ t, value = some t ∧ t.strip ≠ [] := by
  cases value with
  | none => simp [isPresent]
  | some t => simp [isPresent, ← Text.isBlankText_iff]

/-- A method is ready exactly when all the values that it needs are present. -/
theorem isReady_iff (settings : Settings) (method : AuthMethod) :
    settings.isReady method = true ↔ ∀ value ∈ settings.required method, isPresent value = true := by
  cases method with
  | clientCertificate => simp [isReady, required, hasIdentity, and_assoc]
  | clientSecret => simp [isReady, required, hasIdentity, and_assoc]
  | commandLine => simp [isReady, required]

/-- The methods that may be used and are ready are the usable ones. -/
theorem usable_iff (settings : Settings) (method : AuthMethod) :
    (settings.isEnabled method && settings.isReady method) = true ↔ settings.Usable method := by
  rw [Bool.and_eq_true, isReady_iff, Usable]
  simp only [isPresent_iff]

/-- The same is selected by settings that enable the same methods and for which the same are ready. -/
theorem selectFrom_congr {s t : Settings} (henabled : ∀ method, s.isEnabled method = t.isEnabled method)
    (hready : ∀ method, s.isReady method = t.isReady method) (methods : List AuthMethod) :
    s.selectFrom methods = t.selectFrom methods := by
  induction methods with
  | nil => rfl
  | cons method others ih => simp only [selectFrom, henabled, hready, ih]

/-- What is selected from some methods is the first of them that may be used and is ready. -/
theorem selectFrom_eq_find? (settings : Settings) (methods : List AuthMethod) :
    (settings.selectFrom methods).1 =
      methods.find? fun method => settings.isEnabled method && settings.isReady method := by
  induction methods with
  | nil => rfl
  | cons method rest ih =>
    rw [selectFrom, List.find?_cons]
    cases settings.isEnabled method with
    | false => simpa using ih
    | true =>
      cases settings.isReady method with
      | false => simpa using ih
      | true => rfl

/-- A method is selected exactly when it is usable and none that is preferred to it is. -/
theorem select_eq_some_iff (settings : Settings) (method : AuthMethod) :
    settings.select.1 = some method ↔ ∃ preferred others,
      [.clientCertificate, .clientSecret, .commandLine] = preferred ++ method :: others ∧
        settings.Usable method ∧ ∀ other ∈ preferred, ¬ settings.Usable other := by
  rw [select, selectFrom_eq_find?, List.find?_eq_some_iff_append, usable_iff]
  simp only [Bool.not_eq_true', ← Bool.not_eq_true, usable_iff, preference]
  constructor
  · rintro ⟨husable, preferred, others, horder, hnone⟩
    exact ⟨preferred, others, horder, husable, hnone⟩
  · rintro ⟨preferred, others, horder, husable, hnone⟩
    exact ⟨husable, preferred, others, horder, hnone⟩

/-- No method is selected exactly when none is usable. -/
theorem select_eq_none_iff (settings : Settings) :
    settings.select.1 = none ↔ ∀ method, ¬ settings.Usable method := by
  rw [select, selectFrom_eq_find?, List.find?_eq_none]
  simp only [usable_iff]
  constructor
  · intro hnone method
    exact hnone method (by cases method <;> simp [preference])
  · exact fun hnone method _ => hnone method

/-- Whether two settings agree on all that a method reads of them. -/
structure AgreeFor (method : AuthMethod) (s t : Settings) : Prop where
  /-- The cloud has the same name. -/
  cloudName : s.cloudName = t.cloudName
  /-- The version of the protocol is the same. -/
  version : s.version = t.version
  /-- The tenant is the same. -/
  tenantId : s.tenantId = t.tenantId
  /-- The client is the same. -/
  clientId : s.clientId = t.clientId
  /-- For a certificate, the bundle and its password are the same. -/
  bundle : method = .clientCertificate →
    s.certificatePath = t.certificatePath ∧ s.certificatePassword = t.certificatePassword
  /-- For a secret, the secret is the same. -/
  secret : method = .clientSecret → s.clientSecret = t.clientSecret

/-- The same is built for a method by settings that agree for it. -/
theorem AgreeFor.build_eq {method : AuthMethod} {s t : Settings} (hagree : AgreeFor method s t)
    (platform : Platform) (api : Api) :
    Authorizer.build platform s api method = Authorizer.build platform t api method := by
  have hmade (cloud : Cloud) :
      Authorizer.ofMethod platform s api cloud method = Authorizer.ofMethod platform t api cloud method := by
    cases method with
    | clientCertificate =>
      obtain ⟨hpath, hpassword⟩ := hagree.bundle rfl
      simp only [Authorizer.ofMethod, hagree.version, hagree.tenantId, hagree.clientId, hpath, hpassword]
    | clientSecret =>
      simp only [Authorizer.ofMethod, hagree.version, hagree.tenantId, hagree.clientId,
        hagree.secret rfl]
    | commandLine => simp only [Authorizer.ofMethod, hagree.tenantId]
  have hcloud : s.cloud = t.cloud := congrArg Cloud.find hagree.cloudName
  unfold Authorizer.build
  rw [hcloud]
  cases t.cloud with
  | error e => rfl
  | ok cloud => simp only [hmade]

/-- Settings that select alike come to the same if the same is built for the method that is selected. -/
theorem ofSettings_eq_of_build_eq {s t : Settings} (hselect : s.select = t.select) {platform : Platform}
    (hbuild : ∀ method, s.select.1 = some method → ∀ api,
      Authorizer.build platform s api method = Authorizer.build platform t api method) (api : ApiChoice) :
    Authorizer.ofSettings platform s api = Authorizer.ofSettings platform t api := by
  unfold Authorizer.ofSettings
  rw [← hselect]
  generalize s.select = selection at hbuild ⊢
  obtain ⟨selected, records⟩ := selection
  cases selected with
  | none => rfl
  | some method => simp only [hbuild method rfl]

end Settings

namespace Trace

/-- What is done in a trace besides writing log records. -/
def deeds (trace : Trace) : Trace := trace.filter fun event => event.record?.isNone

/-- The deeds of two traces one after the other. -/
@[simp]
theorem deeds_append (a b : Trace) : deeds (a ++ b) = deeds a ++ deeds b := List.filter_append ..

/-- There are no deeds in log records. -/
@[simp]
theorem deeds_ofRecords (records : List LogRecord) : deeds (ofRecords records) = [] := by
  rw [deeds, List.filter_eq_nil_iff]
  intro event hmem
  obtain ⟨record, -, rfl⟩ := List.mem_map.mp hmem
  exact nofun

/-- All that is no log record is a deed. -/
theorem mem_deeds_iff (trace : Trace) {event : Event} (hrecord : event.record? = none) :
    event ∈ trace.deeds ↔ event ∈ trace := by
  simp [deeds, hrecord]

/-- The deeds open the sessions of a trace. -/
theorem openings_deeds (trace : Trace) : trace.deeds.openings = trace.openings :=
  List.count_filter rfl

end Trace

/-- The only deed of loading a bundle is to read its file, unless it is not even tried. -/
theorem Credential.deeds_of_load {platform : Platform} {given : GivenPath} {password : Option Text}
    {loaded : Except Error Credential} {trace : Trace}
    (hload : load platform given password = (loaded, trace)) :
    trace.deeds = [] ∧ (∃ e, loaded = .error e) ∨ trace.deeds = [.fileRead given.normal] := by
  have hloading := loading_load platform given password
  rw [hload] at hloading
  cases hloading with
  | untried hname => exact .inl ⟨rfl, _, rfl⟩
  | unreadable hname hread => exact .inr rfl
  | unencodable hname hread hsecret => exact .inr rfl
  | undecodable hname hread hdecode => exact .inr rfl
  | loaded hname hread hdecode => exact .inr rfl

/-- What making an authorizer by the settings does besides: sessions, files and the command line. -/
structure Settings.Effects (settings : Settings) (result : Except Error Authorizer) (trace : Trace) :
    Prop where
  /-- A call that fails opens no session. -/
  openings_of_error : ∀ e, result = .error e → trace.openings = 0
  /-- A call that gives an authorizer opens one session for it, or none for the command line. -/
  openings_of_ok : ∀ authorizer, result = .ok authorizer →
    trace.openings = if settings.select.1 = some .commandLine then 0 else 1
  /-- Only the bundle is read, and only when certificates are selected. -/
  fileRead : ∀ path, .fileRead path ∈ trace →
    settings.select.1 = some .clientCertificate ∧ settings.certificatePath = some path
  /-- The session of the command line is taken up only when it is selected. -/
  commandLineOpened : ∀ tenant, .commandLineOpened tenant ∈ trace →
    settings.select.1 = some .commandLine

/-- The effects of a trace are those of its deeds. -/
theorem Settings.Effects.of_deeds {settings : Settings} {result : Except Error Authorizer}
    {trace : Trace} (heffects : settings.Effects result trace.deeds) :
    settings.Effects result trace where
  openings_of_error e herror := by rw [← trace.openings_deeds, heffects.openings_of_error e herror]
  openings_of_ok authorizer hok := by rw [← trace.openings_deeds, heffects.openings_of_ok authorizer hok]
  fileRead path hmem := heffects.fileRead path ((trace.mem_deeds_iff rfl).mpr hmem)
  commandLineOpened tenant hmem := heffects.commandLineOpened tenant ((trace.mem_deeds_iff rfl).mpr hmem)

/-- A call without deeds that gives no authorizer has no effects. -/
theorem Settings.effects_nil (settings : Settings) (e : Error) : settings.Effects (.error e) [] :=
  ⟨fun _ _ => rfl, nofun, nofun, nofun⟩

/-- There are no deeds in the announcement of a method. -/
@[simp]
theorem Settings.deeds_announcement (settings : Settings) (api : Api) (method : AuthMethod) :
    (settings.announcement api method).deeds = [] :=
  Trace.deeds_ofRecords _

/-- Making an authorizer by the settings has no effects but those of the method that is selected. -/
theorem effects_ofSettings (platform : Platform) (settings : Settings) (api : Api) :
    settings.Effects (Authorizer.ofSettings platform settings (.known api)).1
      (Authorizer.ofSettings platform settings (.known api)).2 := by
  have hway := resolution_ofSettings platform settings api
  generalize Authorizer.ofSettings platform settings (.known api) = call at hway ⊢
  refine .of_deeds ?_
  cases hway with
  | unselected hselect =>
    rw [Trace.deeds_ofRecords]
    exact settings.effects_nil _
  | unknownCloud hselect hcloud =>
    rw [Settings.deeds_announcement]
    exact settings.effects_nil _
  | unloaded hselect hcloud hpath hload =>
    rw [Trace.deeds_append, Settings.deeds_announcement, List.nil_append]
    rcases Credential.deeds_of_load hload with ⟨hdeeds, -⟩ | hdeeds
    · rw [hdeeds]
      exact settings.effects_nil _
    · rw [hdeeds]
      constructor
      all_goals simp [Trace.openings, GivenPath.normal, hselect, hpath]
  | certificate hselect hcloud hpath hload =>
    rw [Trace.deeds_append, Settings.deeds_announcement, List.nil_append, Trace.deeds_append]
    rcases Credential.deeds_of_load hload with ⟨-, e, hfailed⟩ | hdeeds
    · cases hfailed
    · rw [hdeeds]
      constructor
      all_goals simp [Trace.deeds, Event.record?, Trace.openings, GivenPath.normal, hselect, hpath]
  | secret hselect hcloud hsecret =>
    rw [Trace.deeds_append, Settings.deeds_announcement, List.nil_append]
    constructor
    all_goals simp [Trace.deeds, Event.record?, Trace.openings, hselect]
  | invalidTenant hselect hcloud htenant hname =>
    rw [Settings.deeds_announcement]
    exact settings.effects_nil _
  | commandLine hselect hcloud htenant =>
    rw [Trace.deeds_append, Settings.deeds_announcement, List.nil_append]
    constructor
    all_goals simp [Trace.deeds, Event.record?, Trace.openings, hselect]

/-- Settings that select the same method and agree for it come to the same, but for the records of the
methods that are passed over. -/
theorem ofSettings_eq_of_agreeFor {s t : Settings} {method : AuthMethod}
    (hs : s.select.1 = some method) (ht : t.select.1 = some method)
    (hagree : Settings.AgreeFor method s t) (platform : Platform) (api : Api) :
    (Authorizer.ofSettings platform s (.known api)).1 = (Authorizer.ofSettings platform t (.known api)).1 ∧
      ∃ rest, (Authorizer.ofSettings platform s (.known api)).2 = .ofRecords s.select.2 ++ rest ∧
        (Authorizer.ofSettings platform t (.known api)).2 = .ofRecords t.select.2 ++ rest := by
  have hannounced (settings : Settings) : settings.announcement api method =
      Trace.ofRecords settings.select.2 ++ [.log (Authorizer.useRecord method api)] :=
    List.map_append
  rw [Authorizer.ofSettings_of_select hs, Authorizer.ofSettings_of_select ht,
    hagree.build_eq platform api, hannounced, hannounced]
  exact ⟨rfl, _, List.append_assoc .., List.append_assoc ..⟩

/-- The method that is selected is the first usable one. It alone decides what comes of the settings, and
there are no effects but its own. -/
theorem selected_method_decides (platform : Platform) (api : Api) :
    (∀ s t method, s.select.1 = some method → t.select.1 = some method →
      Settings.AgreeFor method s t →
        (Authorizer.ofSettings platform s (.known api)).1 =
            (Authorizer.ofSettings platform t (.known api)).1 ∧
          ∃ rest, (Authorizer.ofSettings platform s (.known api)).2 = .ofRecords s.select.2 ++ rest ∧
            (Authorizer.ofSettings platform t (.known api)).2 = .ofRecords t.select.2 ++ rest) ∧
    (∀ settings : Settings,
      (∀ method, settings.select.1 = some method ↔ ∃ preferred others,
        [.clientCertificate, .clientSecret, .commandLine] = preferred ++ method :: others ∧
          settings.Usable method ∧ ∀ other ∈ preferred, ¬ settings.Usable other) ∧
      (settings.select.1 = none ↔ ∀ method, ¬ settings.Usable method)) ∧
    ∀ settings : Settings, settings.Effects (Authorizer.ofSettings platform settings (.known api)).1
      (Authorizer.ofSettings platform settings (.known api)).2 :=
  ⟨fun _ _ _ hs ht hagree => ofSettings_eq_of_agreeFor hs ht hagree platform api,
    fun settings => ⟨settings.select_eq_some_iff, settings.select_eq_none_iff⟩,
    fun settings => effects_ofSettings platform settings api⟩

/-- The settings of a client with a bundle, that has a secret and the command line besides. -/
def Settings.withOtherMethods (path : Text) : Settings :=
  { Settings.ofBundlePath path none with
    useSecret := true
    clientSecret := some "secret"
    useCommandLine := true }

/-- Settings with other methods agree with those without them on the bundle. -/
theorem Settings.agreeFor_withOtherMethods (path : Text) :
    AgreeFor .clientCertificate (ofBundlePath path none) (withOtherMethods path) :=
  ⟨rfl, rfl, rfl, rfl, fun _ => ⟨rfl, rfl⟩, nofun⟩

/-- A bundle gives the same authorizer, and one that is missing fails in the same way, whether other methods
may be used or not. -/
theorem no_fallthrough_of_missing_bundle :
    (∃ source, (Authorizer.ofSettings signingFiles.platform
          (Settings.ofBundlePath "app.pfx" none) (.known .msGraph)).1 = .ok (.client source) ∧
        (Authorizer.ofSettings signingFiles.platform
          (Settings.withOtherMethods "app.pfx") (.known .msGraph)).1 = .ok (.client source)) ∧
      ∃ e, (Authorizer.ofSettings signingFiles.platform
          (Settings.ofBundlePath "other.pfx" none) (.known .msGraph)).1 = .error (.configuration e) ∧
        (Authorizer.ofSettings signingFiles.platform
          (Settings.withOtherMethods "other.pfx") (.known .msGraph)).1 = .error (.configuration e) := by
  obtain ⟨hsame, -⟩ := selected_method_decides signingFiles.platform .msGraph
  have hgood := (hsame _ _ .clientCertificate rfl rfl (Settings.agreeFor_withOtherMethods "app.pfx")).1
  have hbad := (hsame _ _ .clientCertificate rfl rfl (Settings.agreeFor_withOtherMethods "other.pfx")).1
  obtain ⟨source, hmade⟩ := ofSettings_signingPath
  exact ⟨⟨source, hmade, hgood.symm.trans hmade⟩, _, rfl, hbad.symm.trans rfl⟩

end CloudAuth
