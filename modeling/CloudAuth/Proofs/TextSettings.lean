import CloudAuth.Proofs.PathSpelling

/-!
# Settings given as texts

A text means the same for a field wherever it stands: as an explicit value or as a variable, and under any
name of the field. So the settings are determined by the texts alone, and what makes an authorizer from them
cannot tell where they came from. What a text means is said here without the reader.
-/

namespace CloudAuth

namespace SettingValue

/-- A text as an explicit value. -/
def ofText (s : Text) : SettingValue := .json (.str s)

/-- The words for a truth value. -/
def wordsFor (b : Bool) : List Text := bif b then trueWords else falseWords

/-- No word is both true and false. -/
theorem falseWord_not_true {word : Text} (htrue : word ∈ trueWords) : word ∉ falseWords := by
  have hwords : ∀ word ∈ trueWords, word ∉ falseWords := by decide
  exact hwords word htrue

/-- A text is read as a truth value exactly when it is one of the words for it, in any case of its
letters. -/
theorem truth_ofText_eq_ok_iff (s : Text) (b : Bool) : truth (.ofText s) = .ok b ↔
    s.map lowerAsciiPoint ∈ wordsFor b := by
  rw [ofText, truth, truthOfWord]
  simp only [List.contains_iff_mem]
  split
  · next htrue => cases b <;> simp [wordsFor, htrue, falseWord_not_true htrue]
  · next htrue =>
    split
    · next hfalse => cases b <;> simp [wordsFor, htrue, hfalse]
    · next hfalse => cases b <;> simp [wordsFor, htrue, hfalse]

/-- A text that is no such word is unclear, if it can be encoded. -/
theorem eq_textProblem_of_truth_ofText {s : Text} {problem : FieldProblem}
    (herror : truth (.ofText s) = .error problem) : problem = textProblem s .unclearTruth := by
  rw [ofText, truth, truthOfWord] at herror
  split at herror
  · cases herror
  · split at herror
    · cases herror
    · exact (Except.error.inj herror).symm

/-- A text is read as a version exactly when it is its name. -/
theorem version_ofText_eq_ok_iff (s : Text) (v : TokenVersion) :
    version (.ofText s) = .ok v ↔ s = v.name := by
  rw [ofText, version]
  split
  · next hfirst => subst hfirst; cases v <;> simp [TokenVersion.name, Text.ofString]
  · next hfirst =>
    split
    · next hsecond => subst hsecond; cases v <;> simp [TokenVersion.name, Text.ofString]
    · next hsecond => cases v <;> simp [hfirst, hsecond, TokenVersion.name]

/-- A text that names no version is none, if it can be encoded. -/
theorem eq_textProblem_of_version_ofText {s : Text} {problem : FieldProblem}
    (herror : version (.ofText s) = .error problem) : problem = textProblem s .notVersion := by
  rw [ofText, version] at herror
  split at herror
  · cases herror
  · split at herror
    · cases herror
    · exact (Except.error.inj herror).symm

end SettingValue

namespace Field

/-- What a text means for a field. Versions are spelled in one way only, truth values as a word in any case
of its letters, and a blank path is none. All other texts stand for themselves. -/
def Means : (field : Field) → Text → field.Value → Prop
  | cloudName, s, value => value = s
  | version, s, value => s = value.name
  | tenantId, s, value | clientId, s, value | certificatePassword, s, value | clientSecret, s, value =>
    value = some s
  | certificatePath, s, value => value = if Text.isBlankText s then none else some (Path.ofText s)
  | useCertificate, s, value | useSecret, s, value | useCommandLine, s, value =>
    s.map SettingValue.lowerAsciiPoint ∈ SettingValue.wordsFor value

/-- The problem with a text that means nothing. It may be one that cannot be encoded. -/
def textProblem (field : Field) (s : Text) : FieldProblem :=
  SettingValue.textProblem s <| match field with
    | version => .notVersion
    | _ => .unclearTruth

/-- A text is read as a value exactly when it means that value. -/
theorem readValue_ofText_eq_ok_iff (field : Field) (s : Text) (value : field.Value) :
    field.readValue (.ofText s) = .ok value ↔ field.Means s value := by
  have hplain {α : Type} {result : Except FieldProblem α} {given : α} (hread : result = .ok given)
      (value : α) : result = .ok value ↔ value = given := by
    rw [hread, Except.ok.injEq, eq_comm]
  cases field with
  | version => exact SettingValue.version_ofText_eq_ok_iff s value
  | certificatePath => exact hplain (SettingValue.pathOf_str s) value
  | cloudName | tenantId | clientId | certificatePassword | clientSecret => exact hplain rfl value
  | useCertificate | useSecret | useCommandLine => exact SettingValue.truth_ofText_eq_ok_iff s value

/-- A text that is read as no value has the one problem that this text can have for the field. -/
theorem eq_textProblem_of_readValue_ofText {field : Field} {s : Text} {problem : FieldProblem}
    (herror : field.readValue (.ofText s) = .error problem) : problem = field.textProblem s := by
  cases field with
  | version => exact SettingValue.eq_textProblem_of_version_ofText herror
  | certificatePath => cases (SettingValue.pathOf_str s).symm.trans herror
  | cloudName | tenantId | clientId | certificatePassword | clientSecret => cases herror
  | useCertificate | useSecret | useCommandLine =>
    have hunclear : SettingValue.truth (.ofText s) = .error problem := herror
    exact SettingValue.eq_textProblem_of_truth_ofText hunclear

/-- A text is read as no value exactly when it means none. -/
theorem readValue_ofText_eq_error_iff (field : Field) (s : Text) (problem : FieldProblem) :
    field.readValue (.ofText s) = .error problem ↔
      (¬∃ value, field.Means s value) ∧ problem = field.textProblem s := by
  constructor
  · intro herror
    refine ⟨fun ⟨value, hmeans⟩ => ?_, eq_textProblem_of_readValue_ofText herror⟩
    rw [(field.readValue_ofText_eq_ok_iff s value).mpr hmeans] at herror
    cases herror
  · rintro ⟨hnone, rfl⟩
    cases hread : field.readValue (.ofText s) with
    | ok value => exact absurd ⟨value, (field.readValue_ofText_eq_ok_iff s value).mp hread⟩ hnone
    | error problem => rw [eq_textProblem_of_readValue_ofText hread]

/-- What a field gets: what its text means, or its default without a text. -/
def Gets (field : Field) : Option Text → field.Value → Prop
  | none, value => value = Settings.default.value field
  | some s, value => field.Means s value

/-- The result of a field is what it gets from its text. -/
theorem result_map_ofText_eq_ok_iff (field : Field) (text : Option Text) (value : field.Value) :
    field.result (text.map SettingValue.ofText) = .ok value ↔ field.Gets text value := by
  cases text with
  | none => rw [Option.map_none, result, Except.ok.injEq, Gets, eq_comm]
  | some s => exact field.readValue_ofText_eq_ok_iff s value

/-- No name belongs to two fields. -/
theorem eq_of_mem_names {first second : Field} {name : Text} (hfirst : name ∈ first.names)
    (hsecond : name ∈ second.names) : first = second := by
  have hnames : ∀ first ∈ all, ∀ second ∈ all, ∀ name ∈ first.names, name ∈ second.names →
      first = second := by decide +kernel
  exact hnames first first.mem_all second second.mem_all name hfirst hsecond

end Field

namespace SettingSources

/-- The value stands under one of some names, and nothing under the others. -/
def IsOnly {α : Type} (values : List (Text × α)) (names : List Text) (value : α) : Prop :=
  ∃ name ∈ names, values.lookup name = some value ∧
    ∀ other ∈ names, other ≠ name → values.lookup other = none

/-- A text is given for a field, or none is. -/
inductive GivesText (sources : SettingSources) (field : Field) : Option Text → Prop where
  /-- It is an explicit value, and nothing else is given for the field. -/
  | explicit {s : Text} (honly : IsOnly sources.explicit field.names (.ofText s))
      (henvironment : ∀ name ∈ field.names, sources.environment.lookup name = none) :
      GivesText sources field (some s)
  /-- It is a variable, and nothing else is given for the field. -/
  | environment {s : Text} (hexplicit : ∀ name ∈ field.names, sources.explicit.lookup name = none)
      (honly : IsOnly sources.environment field.names s) : GivesText sources field (some s)
  /-- Nothing is given for the field. -/
  | missing (hexplicit : ∀ name ∈ field.names, sources.explicit.lookup name = none)
      (henvironment : ∀ name ∈ field.names, sources.environment.lookup name = none) :
      GivesText sources field none

/-- The sources give these texts for the fields, and tell nothing about how they are to be read. -/
structure Gives (sources : SettingSources) (texts : Field → Option Text) : Prop where
  /-- There is no instruction among the explicit values. -/
  noInstruction : sources.GivesNoInstruction
  /-- The text of each field is given. -/
  text (field : Field) : sources.GivesText field (texts field)

/-- A value that is alone under some names is the first. -/
theorem IsOnly.isFirst {α : Type} {values : List (Text × α)} {names : List Text} {value : α}
    (honly : IsOnly values names value) : IsFirst values names value := by
  obtain ⟨name, hname, hvalue, hothers⟩ := honly
  obtain ⟨before, after, hnames, hbefore⟩ := List.eq_append_cons_of_mem hname
  refine ⟨before, name, after, hnames, hvalue, fun earlier hearlier => ?_⟩
  exact hothers earlier (by simp [hnames, hearlier]) (ne_of_mem_of_not_mem hearlier hbefore)

/-- A field is resolved to the text that is given for it, wherever it is. -/
theorem find?_of_gives {sources : SettingSources} {texts : Field → Option Text}
    (hgives : sources.Gives texts) (field : Field) :
    sources.find? field = (texts field).map SettingValue.ofText := by
  rw [← resolves_iff]
  have hvariables := givenVariables_eq_environment hgives.noInstruction
  have htext := hgives.text field
  generalize texts field = text at htext
  cases htext with
  | explicit honly henvironment => exact .explicit honly.isFirst
  | environment hexplicit honly => exact .environment hexplicit (hvariables ▸ honly.isFirst)
  | missing hexplicit henvironment => exact .missing hexplicit (hvariables ▸ henvironment)

end SettingSources

/-- Where the text of each field is put: under which of its names, and whether explicitly or as a
variable. -/
structure Placement where
  /-- The name that is used. -/
  name : Field → Text
  /-- The name is one of the field. -/
  name_mem : ∀ field, name field ∈ field.names
  /-- Whether the text is an explicit value. -/
  isExplicit : Field → Bool

namespace Placement

variable {α : Type} (placement : Placement)

/-- Values of fields under the names that are used. -/
def listed (values : Field → Option α) : List (Text × α) :=
  Field.all.filterMap fun field => (values field).map (placement.name field, ·)

/-- The text of a field, if it is put among the explicit values. -/
def explicitValue (texts : Field → Option Text) (field : Field) : Option SettingValue :=
  if placement.isExplicit field then (texts field).map SettingValue.ofText else none

/-- The text of a field, if it is put among the variables. -/
def variableValue (texts : Field → Option Text) (field : Field) : Option Text :=
  if placement.isExplicit field then none else texts field

/-- The sources with the texts where they are put. -/
def sources (texts : Field → Option Text) : SettingSources where
  explicit := placement.listed (placement.explicitValue texts)
  environment := placement.listed (placement.variableValue texts)

/-- Under a name of a field stands its value if the name is the one that is used, and nothing otherwise. -/
theorem lookup_listed (values : Field → Option α) {field : Field} {name : Text}
    (hname : name ∈ field.names) : (placement.listed values).lookup name =
      if name = placement.name field then values field else none := by
  have hfrom (fields : List Field) :
      (fields.filterMap fun field => (values field).map (placement.name field, ·)).lookup name =
        if field ∈ fields ∧ name = placement.name field then values field else none := by
    induction fields with
    | nil => simp
    | cons first rest ih =>
      rw [List.filterMap_cons]
      by_cases hfirst : name = placement.name first
      · -- The name belongs to both fields, so they are the same.
        obtain rfl := Field.eq_of_mem_names hname (hfirst ▸ placement.name_mem first)
        cases hvalue : values field with
        | none => simp [ih, hvalue]
        | some value => simp [hfirst]
      · -- Whatever the first field puts under its own name is passed over.
        have hmem : (field ∈ first :: rest ∧ name = placement.name field) ↔
            field ∈ rest ∧ name = placement.name field := by
          rw [List.mem_cons, or_and_right, or_iff_right]
          rintro ⟨rfl, hsame⟩
          exact hfirst hsame
        simp only [hmem, ← ih]
        cases values first with
        | none => rfl
        | some value => simp [List.lookup_cons, beq_false_of_ne hfirst]
  rw [listed, hfrom]
  simp [Field.mem_all]

/-- A value that is listed is the only one of its field. -/
theorem isOnly_listed (values : Field → Option α) {field : Field} {value : α}
    (hvalue : values field = some value) :
    SettingSources.IsOnly (placement.listed values) field.names value := by
  refine ⟨placement.name field, placement.name_mem field, ?_, fun other hother hne => ?_⟩
  · rw [lookup_listed placement values (placement.name_mem field), if_pos rfl, hvalue]
  · rw [lookup_listed placement values hother, if_neg hne]

/-- Nothing is listed for a field without a value. -/
theorem lookup_listed_of_none (values : Field → Option α) {field : Field} (hvalue : values field = none) :
    ∀ name ∈ field.names, (placement.listed values).lookup name = none := by
  intro name hname
  rw [lookup_listed placement values hname, hvalue, ite_self]

/-- Texts that are put under names of fields tell nothing about how they are to be read. -/
theorem givesNoInstruction_sources (texts : Field → Option Text) :
    (placement.sources texts).GivesNoInstruction := by
  have hnames : ∀ field ∈ Field.all, ∀ name ∈ field.names,
      name.head? ≠ some SettingSources.underscore := by decide
  intro entry hentry
  obtain ⟨field, hfield, hput⟩ := List.mem_filterMap.mp hentry
  obtain ⟨value, -, rfl⟩ := Option.map_eq_some_iff.mp hput
  exact hnames field hfield _ (placement.name_mem field)

/-- Texts are given wherever they are put. -/
theorem gives_sources (texts : Field → Option Text) : (placement.sources texts).Gives texts := by
  refine ⟨placement.givesNoInstruction_sources texts, fun field => ?_⟩
  have hexplicit (hvalue : placement.explicitValue texts field = none) :
      ∀ name ∈ field.names, (placement.sources texts).explicit.lookup name = none :=
    placement.lookup_listed_of_none _ hvalue
  have hvariable (hvalue : placement.variableValue texts field = none) :
      ∀ name ∈ field.names, (placement.sources texts).environment.lookup name = none :=
    placement.lookup_listed_of_none _ hvalue
  cases htext : texts field with
  | none =>
    exact .missing (hexplicit (by simp [explicitValue, htext])) (hvariable (by simp [variableValue, htext]))
  | some s =>
    cases hput : placement.isExplicit field with
    | true =>
      exact .explicit (placement.isOnly_listed _ (by simp [explicitValue, htext, hput]))
        (hvariable (by simp [variableValue, hput]))
    | false =>
      exact .environment (hexplicit (by simp [explicitValue, hput]))
        (placement.isOnly_listed _ (by simp [variableValue, htext, hput]))

end Placement

/-- The authorizer for an API by settings that are made from sources first. -/
def Authorizer.ofSources (platform : Platform) (sources : SettingSources) (api : ApiChoice) :
    Except (List FieldError) (Except Error Authorizer × Trace) :=
  (Settings.read sources).bind fun settings => ofGiven platform sources.environment (some settings) api

/-- Without explicit values, settings need not be made first. -/
theorem Authorizer.ofGiven_none (platform : Platform) (environment : List (Text × Text))
    (api : ApiChoice) : ofGiven platform environment none api = ofSources platform ⟨[], environment⟩ api := by
  unfold ofSources ofGiven
  cases Settings.read ⟨[], environment⟩ <;> rfl

/-- Texts can be put anywhere, each under one name of its field. Where they are makes no difference: every
field gets what its text means, the fields whose text means nothing are reported, and the settings and the
authorizer, or the errors, are the same for all sources that give the texts. If all of them are in the
environment, that holds also when no settings are given. -/
theorem texts_mean_alike_wherever_given (texts : Field → Option Text) :
    (∀ placement : Placement, (placement.sources texts).Gives texts) ∧
    ∀ sources : SettingSources, sources.Gives texts →
      (∀ settings, Settings.read sources = .ok settings ↔
        ∀ field : Field, field.Gets (texts field) (settings.value field)) ∧
      (∀ errors, Settings.read sources = .error errors → ∀ e, e ∈ errors ↔
        ∃ field s, texts field = some s ∧ (¬∃ value, field.Means s value) ∧
          e = ⟨field.name, field.textProblem s⟩) ∧
      (∀ other : SettingSources, other.Gives texts → Settings.read other = Settings.read sources ∧
        ∀ platform api, Authorizer.ofSources platform other api = Authorizer.ofSources platform sources api) ∧
      ∀ environment, (SettingSources.mk [] environment).Gives texts → ∀ platform api,
        Authorizer.ofGiven platform environment none api = Authorizer.ofSources platform sources api := by
  refine ⟨fun placement => placement.gives_sources texts, fun sources hgives => ?_⟩
  have hsame (other : SettingSources) (hother : other.Gives texts) :
      Settings.read other = Settings.read sources :=
    Settings.read_congr fun field => by rw [SettingSources.find?_of_gives hother,
      SettingSources.find?_of_gives hgives]
  have hauthorizer (other : SettingSources) (hother : other.Gives texts) (platform : Platform)
      (api : ApiChoice) :
      Authorizer.ofSources platform other api = Authorizer.ofSources platform sources api := by
    rw [Authorizer.ofSources, hsame other hother]
    rfl
  refine ⟨fun settings => ?_, fun errors herrors e => ?_, fun other hother => ?_,
    fun environment henvironment platform api => ?_⟩
  · rw [Settings.read_eq_ok_iff]
    simp only [SettingSources.find?_of_gives hgives, Field.result_map_ofText_eq_ok_iff]
  · rw [(SettingSources.reports_of_read herrors).mem_iff]
    obtain ⟨location, problem⟩ := e
    simp only [SettingSources.resolves_iff, SettingSources.find?_of_gives hgives, Option.map_eq_some_iff,
      FieldError.mk.injEq]
    constructor
    · rintro ⟨field, value, ⟨s, htext, rfl⟩, hname, hproblem⟩
      obtain ⟨hnone, hkind⟩ := (field.readValue_ofText_eq_error_iff s problem).mp hproblem
      exact ⟨field, s, htext, hnone, hname, hkind⟩
    · rintro ⟨field, s, htext, hnone, hname, hkind⟩
      exact ⟨field, _, ⟨s, htext, rfl⟩, hname,
        (field.readValue_ofText_eq_error_iff s problem).mpr ⟨hnone, hkind⟩⟩
  · exact ⟨hsame other hother, hauthorizer other hother⟩
  · rw [Authorizer.ofGiven_none]
    exact hauthorizer _ henvironment platform api

/-- Every text is a variable, under the last name of its field. -/
def Placement.inEnvironment : Placement where
  name field := field.names.getLast (List.cons_ne_nil _ _)
  name_mem _ := List.getLast_mem _
  isExplicit _ := false

/-- Truth values are explicit, under the names of the fields themselves, and all others are variables. -/
def Placement.split : Placement where
  name
    | .tenantId => "AZURE_TENANT_ID"
    | .clientSecret => "AZURE_CLIENT_SECRET"
    | field => field.name
  name_mem field := by cases field <;> decide
  isExplicit
    | .useCertificate | .useSecret | .useCommandLine => true
    | _ => false

/-- Texts of which the truth values are in odd case, the path is blank and the secret is empty. -/
def oddTexts : Field → Option Text
  | .version => some "v1"
  | .tenantId => some "t"
  | .useCertificate => some "yES"
  | .certificatePath => some " \t"
  | .useSecret => some "oFF"
  | .clientSecret => some ""
  | .useCommandLine => some "1"
  | _ => none

/-- These texts give the same settings and the same authorizer from both placements, and in the environment
also if no settings are given. -/
theorem oddTexts_alike_in_both_placements :
    (Placement.inEnvironment.sources oddTexts).environment =
        ([("TOKEN_VERSION", "v1"), ("TENANT_ID", "t"), ("ENABLE_CLIENT_CERTIFICATE_AUTH", "yES"),
          ("AZURE_CLIENT_CERTIFICATE_PATH", " \t"), ("ENABLE_CLIENT_SECRET_AUTH", "oFF"),
          ("CLIENT_SECRET", ""), ("ENABLE_AZURE_CLI_AUTH", "1")] : List (String × String)).map
            (Prod.map Text.ofString Text.ofString) ∧
      (Placement.inEnvironment.sources oddTexts).explicit = [] ∧
      (Placement.split.sources oddTexts).environment =
        ([("version", "v1"), ("AZURE_TENANT_ID", "t"), ("certificate_path", " \t"),
          ("AZURE_CLIENT_SECRET", "")] : List (String × String)).map
            (Prod.map Text.ofString Text.ofString) ∧
      Settings.read (Placement.inEnvironment.sources oddTexts) = .ok { Settings.default with
        version := .v1, tenantId := some "t", useCertificate := true, clientSecret := some "",
        useCommandLine := true } ∧
      Settings.read (Placement.split.sources oddTexts) =
        Settings.read (Placement.inEnvironment.sources oddTexts) ∧
      Authorizer.ofGiven signingFiles.platform (Placement.inEnvironment.sources oddTexts).environment none
          (.known .msGraph) =
        Authorizer.ofSources signingFiles.platform (Placement.split.sources oddTexts) (.known .msGraph) := by
  obtain ⟨hput, halike⟩ := texts_mean_alike_wherever_given oddTexts
  obtain ⟨-, -, hsame, hnone⟩ := halike _ (hput .split)
  exact ⟨rfl, rfl, rfl, rfl, (hsame _ (hput .inEnvironment)).1.symm,
    hnone _ (hput .inEnvironment) _ _⟩

end CloudAuth
