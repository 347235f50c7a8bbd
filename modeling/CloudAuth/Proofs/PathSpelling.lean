import CloudAuth.Proofs.Decoding
import CloudAuth.Proofs.PathNormalization
import CloudAuth.Proofs.Preference
import CloudAuth.Proofs.SettingsReading

/-!
# Spellings of the path of a bundle

A path can be given as a text, as a path, as the text of its normal form, or as a variable. The texts are
checked for blanks before they are brought into normal form and the path is checked after that, so the
same path may be left out of the settings in one spelling and be there in another. It is blank then, and
counts for nothing when a method is selected. Whether the path or the password can be encoded is found out
only when the bundle is read, in every spelling alike.
-/

namespace CloudAuth

namespace SettingSources

/-- The ways in which sources give the path that a text spells. -/
inductive GivesPath (sources : SettingSources) (s : Text) : Prop where
  /-- The text is given explicitly. -/
  | text (hfirst : IsFirst sources.explicit Field.certificatePath.names (.json (.str s)))
  /-- The path is given explicitly. -/
  | path (hfirst : IsFirst sources.explicit Field.certificatePath.names (.path (Path.ofText s)))
  /-- The text of the normal form is given explicitly. -/
  | normalText (hfirst : IsFirst sources.explicit Field.certificatePath.names
      (.json (.str (Path.ofText s).text)))
  /-- The text is given as a variable. -/
  | environment (hnone : ∀ name ∈ Field.certificatePath.names, sources.explicit.lookup name = none)
      (hfirst : IsFirst sources.givenVariables Field.certificatePath.names s)

end SettingSources

/-- A text is read as the path that it spells, or as none if it is blank. -/
theorem SettingValue.pathOf_str (s : Text) : pathOf (.json (.str s)) =
    .ok (if Text.isBlankText s then none else some (Path.ofText s)) := by
  rw [pathOf]
  split <;> rfl

namespace Settings

/-- The path that counts when a method is selected: none if it is blank. -/
def presentPath (path : Option Path) : Option Path := path.filter fun p => !Text.isBlankText p.text

/-- A path is present exactly when it counts. -/
theorem isPresent_path (path : Option Path) :
    isPresent (path.map Path.text) = (presentPath path).isSome := by
  cases path with
  | none => rfl
  | some p => cases hblank : Text.isBlankText p.text <;> simp [isPresent, presentPath, hblank]

/-- A path that is present is the one that counts. -/
theorem presentPath_of_isPresent {path : Option Path} (hpresent : isPresent (path.map Path.text) = true) :
    presentPath path = path := by
  obtain ⟨p, rfl⟩ : ∃ p, path = some p := by
    cases path with
    | none => contradiction
    | some p => exact ⟨p, rfl⟩
  exact if_pos hpresent

section SamePath

variable {a b : Option Path} (hpath : presentPath a = presentPath b)

include hpath

/-- The same method is selected, and the same methods are passed over. -/
theorem select_eq_of_presentPath (settings : Settings) :
    { settings with certificatePath := a }.select = { settings with certificatePath := b }.select := by
  refine selectFrom_congr (fun method => ?_) (fun method => ?_) preference
  · cases method <;> rfl
  · cases method <;> simp only [isReady, hasIdentity, isPresent_path, hpath]

/-- If certificates are selected, the very same path is there. -/
theorem eq_of_presentPath_of_select {settings : Settings}
    (hselect : { settings with certificatePath := a }.select.1 = some .clientCertificate) : a = b := by
  have hready := isReady_of_select hselect
  rw [isReady, Bool.and_eq_true] at hready
  have hfirst : isPresent (a.map Path.text) = true := hready.2
  have hsecond : isPresent (b.map Path.text) = true := by
    rwa [isPresent_path, ← hpath, ← isPresent_path]
  calc
    a = presentPath a := (presentPath_of_isPresent hfirst).symm
    _ = presentPath b := hpath
    _ = b := presentPath_of_isPresent hsecond

/-- What comes of the settings is the same. -/
theorem ofSettings_eq_of_presentPath (platform : Platform) (settings : Settings) (api : ApiChoice) :
    Authorizer.ofSettings platform { settings with certificatePath := a } api =
      Authorizer.ofSettings platform { settings with certificatePath := b } api := by
  refine ofSettings_eq_of_build_eq (select_eq_of_presentPath hpath settings)
    (fun method hselect api => ?_) api
  have hagree : AgreeFor method { settings with certificatePath := a }
      { settings with certificatePath := b } := by
    refine ⟨rfl, rfl, rfl, rfl, ?_, fun _ => rfl⟩
    rintro rfl
    exact ⟨eq_of_presentPath_of_select hpath hselect, rfl⟩
  exact hagree.build_eq platform api

end SamePath

/-- A field whose value is accepted is not among the errors. -/
theorem location_ne_of_read_error {sources : SettingSources} {errors : List FieldError}
    (hread : read sources = .error errors) {field : Field} {value : field.Value}
    (haccepted : field.result (sources.find? field) = .ok value) :
    ∀ e ∈ errors, e.location ≠ field.name := by
  intro e he hlocation
  obtain ⟨rfl, -⟩ := (read_eq_error_iff sources errors).mp hread
  obtain ⟨other, -, hproblem⟩ := List.mem_flatMap.mp he
  obtain ⟨_, -, hname, -⟩ := (Field.mem_problems_iff sources other e).mp hproblem
  cases Field.name_injective (hlocation.symm.trans hname)
  rw [Field.problems, haccepted] at hproblem
  contradiction

/-- Settings are read alike from sources that agree but for the path, if both give one that is
accepted. -/
theorem read_of_agreesOn {first second : SettingSources} {a b : Option Path}
    (hagrees : ∀ field, field ≠ .certificatePath → first.AgreesOn second field)
    (ha : Field.result .certificatePath (first.find? .certificatePath) = .ok a)
    (hb : Field.result .certificatePath (second.find? .certificatePath) = .ok b) :
    (∃ errors, read first = .error errors ∧ read second = .error errors) ∨
      ∃ settings : Settings, read first = .ok { settings with certificatePath := a } ∧
        read second = .ok { settings with certificatePath := b } := by
  rcases read_cases first with ⟨made, hmade, hvalues⟩ | ⟨herrors, hne⟩
  · obtain rfl : made.certificatePath = a :=
      Except.ok.inj ((hvalues .certificatePath).symm.trans ha)
    refine .inr ⟨made, hmade, (read_eq_ok_iff _ _).mpr fun field => ?_⟩
    by_cases hfield : field = .certificatePath
    · subst hfield
      exact hb
    · rw [SettingSources.find?_eq_of_agreesOn (hagrees field hfield), hvalues field]
      cases field <;> first | rfl | contradiction
  · refine .inl ⟨_, herrors, (read_eq_error_iff _ _).mpr ⟨?_, hne⟩⟩
    refine List.flatMap_congr fun field _ => ?_
    by_cases hfield : field = .certificatePath
    · subst hfield
      rw [Field.problems, Field.problems, ha, hb]
      rfl
    · rw [Field.problems, Field.problems, SettingSources.find?_eq_of_agreesOn (hagrees field hfield)]

/-- A blank text counts as the path that it spells, if that is blank too. -/
theorem presentPath_of_text {s : Text}
    (hblank : Text.isBlankText s = true → Text.isBlankText (Path.ofText s).text = true) :
    presentPath (if Text.isBlankText s then none else some (Path.ofText s)) =
      presentPath (some (Path.ofText s)) := by
  split
  · next h => rw [presentPath, presentPath, Option.filter_some, hblank h]; rfl
  · rfl

/-- In whatever way a path is given, it is accepted and counts alike. -/
theorem result_of_givesPath {sources : SettingSources} {s : Text} (hne : s ≠ [])
    (hgives : sources.GivesPath s) : ∃ path,
      Field.result .certificatePath (sources.find? .certificatePath) = .ok path ∧
        presentPath path = presentPath (some (Path.ofText s)) := by
  have htext : presentPath (if Text.isBlankText s then none else some (Path.ofText s)) =
      presentPath (some (Path.ofText s)) :=
    presentPath_of_text fun hblank => by rwa [Path.text_ofText_of_blank hne hblank]
  cases hgives with
  | text hfirst =>
    rw [(sources.resolves_iff _ _).mp (.explicit hfirst)]
    exact ⟨_, SettingValue.pathOf_str s, htext⟩
  | path hfirst =>
    rw [(sources.resolves_iff _ _).mp (.explicit hfirst)]
    exact ⟨_, rfl, rfl⟩
  | normalText hfirst =>
    rw [(sources.resolves_iff _ _).mp (.explicit hfirst)]
    refine ⟨_, SettingValue.pathOf_str (Path.ofText s).text, ?_⟩
    rw [presentPath_of_text fun hblank => by rwa [Path.ofText_text], Path.ofText_text]
  | environment hnone hfirst =>
    rw [(sources.resolves_iff _ _).mp (.environment hnone hfirst)]
    exact ⟨_, SettingValue.pathOf_str s, htext⟩

end Settings

/-- The message of an error of a bundle has a quoted text in it. -/
def DecodeError.Names (e : DecodeError) (t : Text) : Prop :=
  ∃ before after, e.message = before ++ Text.quoted t ++ after

/-- A path that cannot be read is named. -/
theorem DecodeError.names_unreadable (path : Path) (failure : ReadFailure) :
    (unreadable path failure).Names path.text := by
  unfold Names message
  refine ⟨"could not read pkcs12 store at ", ": " ++ failure.message path.text, ?_⟩
  simp only [String.append_assoc]

/-- What a bundle is called is named by the errors of its contents. -/
theorem DecodeError.names_of_isOf {source : Text} {e : DecodeError} (he : e.IsOf source) :
    e.Names source := by
  cases e with
  | unreadable path failure => exact absurd he id
  | corrupt called =>
    obtain rfl : called = source := he
    exact ⟨_, _, rfl⟩
  | noKey called =>
    obtain rfl : called = source := he
    exact ⟨_, "", (String.append_empty ..).symm⟩
  | noCertificate called =>
    obtain rfl : called = source := he
    exact ⟨_, "", (String.append_empty ..).symm⟩
  | unsupportedKey kind called =>
    obtain ⟨rfl, -⟩ := he
    exact ⟨_, "", (String.append_empty ..).symm⟩

/-- What is loaded from a path without the character zero names the path: each record does, and so does
each error, unless the path or the password cannot be encoded. -/
theorem Credential.load_names_path (platform : Platform) (given : GivenPath) (password : Option Text)
    (hnul : Text.nul ∉ given.normal.text) :
    (∀ record, .log record ∈ (load platform given password).2 →
      record.message = "Decoding pkcs12 store " ++ given.normal.text) ∧
    ∀ e, (load platform given password).1 = .error e →
      (∃ d, e = .decode d ∧ d.Names given.normal.text) ∨
        ∃ u, e = .fault (.unencodable u) ∧
          (given.normal.text.encodeName = .error u ∨ secretOf password = .error u) := by
  have hloading := loading_load platform given password
  generalize load platform given password = loaded at hloading ⊢
  cases hloading with
  | untried hname =>
    refine ⟨by simp, ?_⟩
    rintro e ⟨⟩
    rcases (given.normal.fileName_eq_error_iff _).mp hname with ⟨u, rfl, hencode⟩ | ⟨-, -, hmem⟩
    · exact .inr ⟨u, rfl, .inl hencode⟩
    · exact absurd hmem hnul
  | unreadable hname hread =>
    refine ⟨by simp, ?_⟩
    rintro e ⟨⟩
    exact .inl ⟨_, rfl, DecodeError.names_unreadable given.normal _⟩
  | unencodable hname hread hsecret =>
    refine ⟨by simp [decodingRecord], ?_⟩
    rintro e ⟨⟩
    exact .inr ⟨_, rfl, .inr hsecret⟩
  | undecodable hname hread hdecode =>
    refine ⟨by simp [decodingRecord], ?_⟩
    rintro e ⟨⟩
    exact .inl ⟨_, rfl, DecodeError.names_of_isOf (isOf_of_decode hdecode)⟩
  | loaded hname hread hdecode => exact ⟨by simp [decodingRecord], nofun⟩

/-- The normal form of a text without the character zero has none either. -/
theorem Path.nul_not_mem_text {s : Text} (hnul : Text.nul ∉ s) : Text.nul ∉ (ofText s).text := by
  intro hmem
  rcases mem_of_mem_text hmem with h | h | h
  · exact absurd h (by decide)
  · exact absurd h (by decide)
  · exact hnul h

/-- It does not matter how the path of a bundle is spelled, or whether it is given as a text, as a path or
as a variable. The settings are read with the same errors, none of which is about the path, or select the
same method with the same records and come to the same. This is an authorizer or an error of the
configuration, exactly unless the path, or the password of a bundle that can be read, cannot be encoded. A
bundle is loaded alike from the text, from the path and from the text of its normal form, which all records
and errors name. -/
theorem path_spelling_irrelevant (platform : Platform) {s : Text} (hne : s ≠ []) (hnul : Text.nul ∉ s) :
    (∀ first second : SettingSources, first.GivesNoInstruction → second.GivesNoInstruction →
      first.GivesPath s → second.GivesPath s →
      (∀ field, field ≠ .certificatePath → first.AgreesOn second field) →
      (∃ errors, Settings.read first = .error errors ∧ Settings.read second = .error errors ∧
        ∀ e ∈ errors, e.location ≠ "certificate_path") ∨
      ∃ a b, Settings.read first = .ok a ∧ Settings.read second = .ok b ∧ a.select = b.select ∧
        ∀ api, Authorizer.ofSettings platform a (.known api) =
            Authorizer.ofSettings platform b (.known api) ∧
          (((∃ authorizer, (Authorizer.ofSettings platform a (.known api)).1 = .ok authorizer) ∨
              ∃ e, (Authorizer.ofSettings platform a (.known api)).1 = .error (.configuration e)) ↔
            ∀ fault, ¬ a.FaultsWith platform fault) ∧
          ∀ fault, a.FaultsWith platform fault → ∃ u, fault = .unencodable u ∧
            ((Path.ofText s).text.encodeName = .error u ∨
              Credential.secretOf a.certificatePassword = .error u)) ∧
    ∀ password,
      let p := (Path.ofText s).text
      Credential.load platform (.text s) password =
        Credential.load platform (.path (Path.ofText s)) password ∧
      Credential.load platform (.text p) password = Credential.load platform (.text s) password ∧
      (∀ record, .log record ∈ (Credential.load platform (.text s) password).2 →
        record.message = "Decoding pkcs12 store " ++ p) ∧
      ∀ e, (Credential.load platform (.text s) password).1 = .error e →
        (∃ d, e = .decode d ∧ d.Names p) ∨
          ∃ u, e = .fault (.unencodable u) ∧
            (p.encodeName = .error u ∨ Credential.secretOf password = .error u) := by
  have hnulPath := Path.nul_not_mem_text hnul
  refine ⟨fun first second _ _ hfirst hsecond hagrees => ?_, fun password => ?_⟩
  · obtain ⟨a, ha, hpathA⟩ := Settings.result_of_givesPath hne hfirst
    obtain ⟨b, hb, hpathB⟩ := Settings.result_of_givesPath hne hsecond
    have hpath := hpathA.trans hpathB.symm
    rcases Settings.read_of_agreesOn hagrees ha hb with ⟨errors, herrors, hsame⟩ | ⟨settings, hA, hB⟩
    · exact .inl ⟨errors, herrors, hsame, Settings.location_ne_of_read_error herrors ha⟩
    · refine .inr ⟨_, _, hA, hB, Settings.select_eq_of_presentPath hpath settings, fun api =>
        ⟨Settings.ofSettings_eq_of_presentPath hpath platform settings _,
          settled_iff_not_faultsWith platform _ api, ?_⟩⟩
      rintro fault ⟨hselect, -, hfault⟩
      have hpresent := Settings.eq_of_presentPath_of_select hpathA hselect
      rcases hfault.cases_of_path hpresent with
        ⟨problem, hname, rfl⟩ | ⟨name, data, u, -, -, hsecret, rfl⟩
      · rcases ((Path.ofText s).fileName_eq_error_iff problem).mp hname with
          ⟨u, rfl, hencode⟩ | ⟨-, -, hmem⟩
        · exact ⟨u, rfl, .inl hencode⟩
        · exact absurd hmem hnulPath
      · exact ⟨u, rfl, .inr hsecret⟩
  · refine ⟨(Credential.load_normal platform (.text s) password).symm, ?_,
      Credential.load_names_path platform (.text s) password hnulPath⟩
    rw [← Credential.load_normal, GivenPath.normal, Path.ofText_text]
    exact Credential.load_normal platform (.text s) password

/-- The sources of a client that may use a certificate, with an explicit value or a variable for the
path. -/
def certificateSources (value : Option SettingValue) (t : Option Text) : SettingSources where
  explicit := value.toList.map (Text.ofString "certificate_path", ·) ++
    [(Text.ofString "tenant_id", SettingValue.json (.ofString "t")),
      (Text.ofString "client_id", SettingValue.json (.ofString "c")),
      (Text.ofString "enable_client_certificate_auth", SettingValue.json (.bool true))]
  environment := t.toList.map (Text.ofString "AZURE_CLIENT_CERTIFICATE_PATH", ·)

/-- Such sources give no instruction. -/
theorem givesNoInstruction_certificateSources (value : Option SettingValue) (t : Option Text) :
    (certificateSources value t).GivesNoInstruction := by
  have hnames : ∀ name ∈ [Text.ofString "certificate_path", Text.ofString "tenant_id",
      Text.ofString "client_id", Text.ofString "enable_client_certificate_auth"],
      name.head? ≠ some SettingSources.underscore := by decide
  intro entry hentry
  rcases List.mem_append.mp hentry with hpath | hrest
  · obtain ⟨v, -, rfl⟩ := List.mem_map.mp hpath
    exact hnames _ (by simp)
  · simp only [List.mem_cons, List.not_mem_nil, or_false] at hrest
    rcases hrest with rfl | rfl | rfl
    all_goals exact hnames _ (by simp)

/-- Such sources differ in the path alone. -/
theorem agreesOn_certificateSources (value other : Option SettingValue) (s t : Option Text)
    {field : Field} (hfield : field ≠ .certificatePath) :
    (certificateSources value s).AgreesOn (certificateSources other t) field := by
  have hnames : ∀ field ∈ Field.all, field ≠ .certificatePath → ∀ name ∈ field.names,
      name ≠ Text.ofString "certificate_path" ∧
        name ≠ Text.ofString "AZURE_CLIENT_CERTIFICATE_PATH" := by
    decide
  have hlookup {α : Type} {name path : Text} (hne : name ≠ path) (front : Option α)
      (rest : List (Text × α)) :
      (front.toList.map (path, ·) ++ rest).lookup name = rest.lookup name := by
    cases front with
    | none => rfl
    | some value =>
      change List.lookup name ((path, value) :: rest) = _
      rw [List.lookup_cons, beq_eq_false_iff_ne.mpr hne]
  intro name hname
  obtain ⟨hpath, hvariable⟩ := hnames field field.mem_all hfield name hname
  refine ⟨(hlookup hpath other _).trans (hlookup hpath value _).symm, ?_⟩
  rw [SettingSources.givenVariables_eq_environment (givesNoInstruction_certificateSources value s),
    SettingSources.givenVariables_eq_environment (givesNoInstruction_certificateSources other t)]
  have hs := hlookup hvariable s []
  have ht := hlookup hvariable t []
  rw [List.append_nil] at hs ht
  exact ht.trans hs.symm

/-- Such sources are read as the settings with the path that is accepted. -/
theorem read_certificateSources {value : Option SettingValue} {t : Option Text} {path : Option Path}
    (hpath : Field.result .certificatePath ((certificateSources value t).find? .certificatePath) =
      .ok path) :
    Settings.read (certificateSources value t) =
      .ok { Settings.ofBundlePath [] none with certificatePath := path } := by
  refine (Settings.read_eq_ok_iff _ _).mpr fun field => ?_
  by_cases hfield : field = .certificatePath
  · subst hfield
    exact hpath
  · rw [SettingSources.find?_eq_of_agreesOn (agreesOn_certificateSources none value none t hfield)]
    cases field <;> first | rfl | contradiction

/-- The path of a bundle with superfluous slashes and a full stop gives the same authorizer as a variable and
as a path. A text whose normal form is blank comes to the same as that normal form, though the text is a path
of the settings and its normal form is none. -/
theorem spelled_paths_come_to_same :
    (∃ a b source, Settings.read (certificateSources none (some ".//./app.pfx")) = .ok a ∧
      Settings.read (certificateSources (some (.path (Path.ofText ".//./app.pfx"))) none) = .ok b ∧
      a.select = (some .clientCertificate, []) ∧ a.select = b.select ∧
      (Authorizer.ofSettings signingFiles.platform a (.known .msGraph)).1 = .ok (.client source) ∧
      (Authorizer.ofSettings signingFiles.platform b (.known .msGraph)).1 = .ok (.client source)) ∧
    ∃ a b, Settings.read (certificateSources (some (.json (.ofString "  /."))) none) = .ok a ∧
      Settings.read (certificateSources (some (.json (.str (Path.ofText "  /.").text))) none) = .ok b ∧
      a.certificatePath ≠ b.certificatePath ∧ a.select.1 = none ∧ a.select = b.select := by
  constructor
  · have hfirst : (certificateSources none (some ".//./app.pfx")).GivesPath ".//./app.pfx" :=
      .environment (by decide) ⟨["certificate_path"], _, [], rfl, rfl, by decide⟩
    have hsecond : (certificateSources (some (.path (Path.ofText ".//./app.pfx"))) none).GivesPath
        ".//./app.pfx" := .path ⟨[], _, _, rfl, rfl, nofun⟩
    have hread : Settings.read (certificateSources none (some ".//./app.pfx")) =
        .ok (.ofBundlePath "app.pfx" none) := read_certificateSources rfl
    obtain ⟨source, hmade⟩ := ofSettings_signingPath
    obtain ⟨hspelled, -⟩ :=
      path_spelling_irrelevant signingFiles.platform (show Text.ofString ".//./app.pfx" ≠ [] by decide)
        (by decide)
    rcases hspelled _ _ (givesNoInstruction_certificateSources _ _)
        (givesNoInstruction_certificateSources _ _) hfirst hsecond
        fun field => agreesOn_certificateSources _ _ _ _ with
      ⟨errors, herrors, -⟩ | ⟨a, b, ha, hb, hselect, hsame⟩
    · cases hread.symm.trans herrors
    · cases hread.symm.trans ha
      exact ⟨_, b, source, ha, hb, rfl, hselect, hmade, (hsame .msGraph).1 ▸ hmade⟩
  · have hfirst : (certificateSources (some (.json (.ofString "  /."))) none).GivesPath "  /." :=
      .text ⟨[], _, _, rfl, rfl, nofun⟩
    have hsecond : (certificateSources (some (.json (.str (Path.ofText "  /.").text))) none).GivesPath
        "  /." := .normalText ⟨[], _, _, rfl, rfl, nofun⟩
    have hread : Settings.read (certificateSources (some (.json (.ofString "  /."))) none) =
        .ok (.ofBundlePath "  /." none) := read_certificateSources rfl
    have hother : Settings.read (certificateSources (some (.json (.str (Path.ofText "  /.").text))) none) =
        .ok { Settings.ofBundlePath [] none with certificatePath := none } :=
      read_certificateSources rfl
    obtain ⟨hspelled, -⟩ :=
      path_spelling_irrelevant signingFiles.platform (show Text.ofString "  /." ≠ [] by decide) (by decide)
    rcases hspelled _ _ (givesNoInstruction_certificateSources _ _)
        (givesNoInstruction_certificateSources _ _) hfirst hsecond
        fun field => agreesOn_certificateSources _ _ _ _ with
      ⟨errors, herrors, -⟩ | ⟨a, b, ha, hb, hselect, -⟩
    · cases hread.symm.trans herrors
    · cases hread.symm.trans ha
      cases hother.symm.trans hb
      exact ⟨_, _, ha, hb, nofun, rfl, hselect⟩

/-- A path that cannot be encoded comes neither to an authorizer nor to an error of the configuration,
though it is not empty and the character zero is not in it. -/
theorem fault_of_unencodable_path :
    ∃ s : Text, s ≠ [] ∧ Text.nul ∉ s ∧ (certificateSources (some (.json (.str s))) none).GivesPath s ∧
      ∃ a, Settings.read (certificateSources (some (.json (.str s))) none) = .ok a ∧
        ¬ ((∃ authorizer, (Authorizer.ofSettings signingFiles.platform a (.known .msGraph)).1 =
              .ok authorizer) ∨
            ∃ e, (Authorizer.ofSettings signingFiles.platform a (.known .msGraph)).1 =
              .error (.configuration e)) := by
  refine ⟨[.surrogate 0xD800], by decide, by decide, .text ⟨[], _, _, rfl, rfl, nofun⟩, _,
    read_certificateSources rfl, ?_⟩
  have hfault : (Authorizer.ofSettings signingFiles.platform
      { Settings.ofBundlePath [] none with certificatePath := some (Path.ofText [.surrogate 0xD800]) }
      (.known .msGraph)).1 = .error (.fault (.unencodable ⟨0xD800, 0, 0⟩)) := rfl
  rintro (⟨authorizer, h⟩ | ⟨e, h⟩)
  · cases hfault.symm.trans h
  · cases hfault.symm.trans h

end CloudAuth
