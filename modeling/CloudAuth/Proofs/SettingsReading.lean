import Mathlib
import CloudAuth.Settings.Basic

/-!
# How settings are read

Each field is resolved on its own: to the first explicit value under one of its names, or else to the
first variable under one of them, or else to its default. What else is given is not looked at, unless it
tells how to read: explicit names that start with an underscore are no names of fields and may do that. The
reader works the fields off together; `read_cases` takes it apart into the results of the single fields,
and the rest of the module speaks of these alone.
-/

namespace CloudAuth

namespace SettingSources

/-- The value stands under the first of some names that is there. -/
def IsFirst {α : Type} (values : List (Text × α)) (names : List Text) (value : α) : Prop :=
  ∃ before name after, names = before ++ name :: after ∧ values.lookup name = some value ∧
    ∀ earlier ∈ before, values.lookup earlier = none

/-- How a field is resolved. -/
inductive Resolves (sources : SettingSources) (field : Field) : Option SettingValue → Prop where
  /-- To the first explicit value, also if it is null. -/
  | explicit {value : SettingValue} (hfirst : IsFirst sources.explicit field.names value) :
      Resolves sources field (some value)
  /-- To the first variable, if no explicit value is there. -/
  | environment {t : Text} (hnone : ∀ name ∈ field.names, sources.explicit.lookup name = none)
      (hfirst : IsFirst sources.givenVariables field.names t) :
      Resolves sources field (some (.json (.str t)))
  /-- To nothing, if there is neither. -/
  | missing (hexplicit : ∀ name ∈ field.names, sources.explicit.lookup name = none)
      (henvironment : ∀ name ∈ field.names, sources.givenVariables.lookup name = none) :
      Resolves sources field none

/-- What is found first stands under the first name that is there. -/
theorem firstOf?_eq_some_iff {α : Type} {values : List (Text × α)} {names : List Text} {value : α} :
    firstOf? values names = some value ↔ IsFirst values names value :=
  List.findSome?_eq_some_iff

/-- Nothing is found exactly when nothing is there under any name. -/
theorem firstOf?_eq_none_iff {α : Type} {values : List (Text × α)} {names : List Text} :
    firstOf? values names = none ↔ ∀ name ∈ names, values.lookup name = none :=
  List.findSome?_eq_none_iff

/-- A field is resolved to what is found for it. -/
theorem resolves_iff (sources : SettingSources) (field : Field) (value : Option SettingValue) :
    sources.Resolves field value ↔ sources.find? field = value := by
  unfold find?
  constructor
  · intro hresolves
    cases hresolves with
    | explicit hfirst => rw [firstOf?_eq_some_iff.mpr hfirst]
    | environment hnone hfirst =>
      rw [firstOf?_eq_none_iff.mpr hnone, firstOf?_eq_some_iff.mpr hfirst]
      rfl
    | missing hexplicit henvironment =>
      rw [firstOf?_eq_none_iff.mpr hexplicit, firstOf?_eq_none_iff.mpr henvironment]
      rfl
  · rintro rfl
    cases hexplicit : firstOf? sources.explicit field.names with
    | some value => exact .explicit (firstOf?_eq_some_iff.mp hexplicit)
    | none =>
      cases henvironment : firstOf? sources.givenVariables field.names with
      | some t =>
        exact .environment (firstOf?_eq_none_iff.mp hexplicit) (firstOf?_eq_some_iff.mp henvironment)
      | none =>
        exact .missing (firstOf?_eq_none_iff.mp hexplicit) (firstOf?_eq_none_iff.mp henvironment)

/-- What names start with that are no names of fields. -/
def underscore : CodePoint := .scalar '_'

/-- No explicit name starts with an underscore, so that nothing tells how the sources are to be read. -/
def GivesNoInstruction (sources : SettingSources) : Prop :=
  ∀ entry ∈ sources.explicit, entry.1.head? ≠ some underscore

instance (sources : SettingSources) : Decidable sources.GivesNoInstruction :=
  inferInstanceAs (Decidable (∀ entry ∈ sources.explicit, _))

/-- Without an instruction no variable is passed over. -/
theorem givenVariables_eq_environment {sources : SettingSources} (hplain : sources.GivesNoInstruction) :
    sources.givenVariables = sources.environment := by
  have hnone : sources.explicit.lookup ignoreEmptyName = none := by
    refine List.lookup_eq_none_iff.mpr fun entry hentry => bne_iff_ne.mpr fun hname => ?_
    exact hplain entry hentry (hname ▸ rfl)
  rw [givenVariables, ignoresEmpty, hnone]
  rfl

/-- The names of a field that go before a name. -/
def namesBefore (field : Field) (name : Text) : List Text := field.names.takeWhile (· != name)

/-- No field looks at an explicit value under this name: the name is none of the field, or one that goes
before it is there. -/
def HidesExplicit (sources : SettingSources) (name : Text) : Prop :=
  ∀ field : Field, name ∈ field.names →
    ∃ earlier ∈ namesBefore field name, (sources.explicit.lookup earlier).isSome

/-- No field looks at a variable of this name: the name is none of the field, or an explicit value or a
variable that goes before it is there. -/
def HidesVariable (sources : SettingSources) (name : Text) : Prop :=
  ∀ field : Field, name ∈ field.names →
    (∃ other ∈ field.names, (sources.explicit.lookup other).isSome) ∨
      ∃ earlier ∈ namesBefore field name, (sources.environment.lookup earlier).isSome

/-- Other sources differ only in what no field looks at. -/
structure DiffersWhereHidden (sources other : SettingSources) : Prop where
  /-- Explicit values that differ are hidden. -/
  explicit : ∀ name, other.explicit.lookup name ≠ sources.explicit.lookup name →
    sources.HidesExplicit name
  /-- Variables that differ are hidden. -/
  environment : ∀ name, other.environment.lookup name ≠ sources.environment.lookup name →
    sources.HidesVariable name

/-- What goes before a name in a list goes before it wherever the name stands. -/
theorem mem_of_mem_takeWhile_ne {before after : List Text} {name earlier : Text}
    (hearlier : earlier ∈ (before ++ name :: after).takeWhile (· != name)) : earlier ∈ before := by
  rw [List.takeWhile_append] at hearlier
  split at hearlier
  · simpa using hearlier
  · exact (List.takeWhile_sublist _).subset hearlier

/-- What is found first is found in other values too, if these differ only under names that have one in
front of them that is there. -/
theorem firstOf?_eq_of_hidden {α : Type} {values other : List (Text × α)} {names : List Text}
    (hhidden : ∀ name ∈ names, other.lookup name ≠ values.lookup name →
      ∃ earlier ∈ names.takeWhile (· != name), (values.lookup earlier).isSome) :
    firstOf? other names = firstOf? values names := by
  -- Up to the first name that is there, and with it, nothing differs.
  have hsame (before : List Text) (name : Text) (after : List Text)
      (hnames : names = before ++ name :: after)
      (hnone : ∀ earlier ∈ before, values.lookup earlier = none) :
      other.lookup name = values.lookup name := by
    by_contra hne
    obtain ⟨earlier, hearlier, hthere⟩ := hhidden name (by simp [hnames]) hne
    rw [hnames] at hearlier
    rw [hnone earlier (mem_of_mem_takeWhile_ne hearlier)] at hthere
    contradiction
  have hbefore (before rest : List Text) (hnames : names = before ++ rest)
      (hnone : ∀ earlier ∈ before, values.lookup earlier = none) :
      ∀ earlier ∈ before, other.lookup earlier = none := by
    intro earlier hearlier
    obtain ⟨front, back, rfl⟩ := List.append_of_mem hearlier
    rw [hsame front earlier (back ++ rest) (by simp [hnames])
      fun name hname => hnone name (List.mem_append_left _ hname)]
    exact hnone earlier hearlier
  cases hfirst : firstOf? values names with
  | none =>
    rw [firstOf?_eq_none_iff] at hfirst ⊢
    exact hbefore names [] (List.append_nil names).symm hfirst
  | some value =>
    obtain ⟨before, name, after, hnames, hvalue, hnone⟩ := firstOf?_eq_some_iff.mp hfirst
    exact firstOf?_eq_some_iff.mpr ⟨before, name, after, hnames,
      (hsame before name after hnames hnone).trans hvalue, hbefore before _ hnames hnone⟩

/-- A field is resolved alike in sources that differ only in what no field looks at. -/
theorem find?_eq_of_differsWhereHidden {sources other : SettingSources}
    (hplain : sources.GivesNoInstruction) (hother : other.GivesNoInstruction)
    (hdiffers : sources.DiffersWhereHidden other) (field : Field) :
    other.find? field = sources.find? field := by
  have hexplicit : firstOf? other.explicit field.names = firstOf? sources.explicit field.names :=
    firstOf?_eq_of_hidden fun name hname hne => hdiffers.explicit name hne field hname
  unfold find?
  rw [hexplicit, givenVariables_eq_environment hplain, givenVariables_eq_environment hother]
  cases hfound : firstOf? sources.explicit field.names with
  | some value => rfl
  | none =>
    have hnone := firstOf?_eq_none_iff.mp hfound
    have henvironment :
        firstOf? other.environment field.names = firstOf? sources.environment field.names := by
      refine firstOf?_eq_of_hidden fun name hname hne => ?_
      rcases hdiffers.environment name hne field hname with ⟨given, hgiven, hthere⟩ | hearlier
      · rw [hnone given hgiven] at hthere
        contradiction
      · exact hearlier
    rw [henvironment]

end SettingSources

namespace Field

/-- The values of a field. -/
def Value : Field → Type
  | cloudName => Text
  | version => TokenVersion
  | tenantId | clientId | certificatePassword | clientSecret => Option Text
  | certificatePath => Option Path
  | useCertificate | useSecret | useCommandLine => Bool

/-- Reads a value of a field. -/
def readValue : (field : Field) → SettingValue → Except FieldProblem field.Value
  | cloudName => SettingValue.text
  | version => SettingValue.version
  | tenantId | clientId => SettingValue.orNull SettingValue.text
  | certificatePassword | clientSecret => SettingValue.orNull SettingValue.secretText
  | certificatePath => SettingValue.pathOf
  | useCertificate | useSecret | useCommandLine => SettingValue.truth

end Field

/-- The value of a field in some settings. -/
def Settings.value (settings : Settings) : (field : Field) → field.Value
  | .cloudName => settings.cloudName
  | .version => settings.version
  | .tenantId => settings.tenantId
  | .clientId => settings.clientId
  | .useCertificate => settings.useCertificate
  | .certificatePath => settings.certificatePath
  | .certificatePassword => settings.certificatePassword
  | .useSecret => settings.useSecret
  | .clientSecret => settings.clientSecret
  | .useCommandLine => settings.useCommandLine

namespace Field

/-- What a field gets from what it is resolved to: the default if that is nothing. -/
def result (field : Field) : Option SettingValue → Except FieldProblem field.Value
  | none => .ok (Settings.default.value field)
  | some value => field.readValue value

/-- Every field is among all fields. -/
theorem mem_all (field : Field) : field ∈ all := by
  cases field <;> decide

/-- The problems with a field, of which there is at most one. -/
def problems (sources : SettingSources) (field : Field) : List FieldError :=
  Settings.problemOf field (field.result (sources.find? field))

end Field

namespace Settings

/-- What the reader takes from the sources for a field is the result of the field. -/
theorem fieldValue_eq (sources : SettingSources) (field : Field) :
    fieldValue sources field field.readValue (default.value field) =
      field.result (sources.find? field) := by
  unfold fieldValue Field.result
  cases sources.find? field <;> rfl

/-- A result without a problem is a value. -/
theorem problemOf_eq_nil_iff {α : Type} (field : Field) (result : Except FieldProblem α) :
    problemOf field result = [] ↔ ∃ value, result = .ok value := by
  cases result <;> simp [problemOf]

/-- Settings are read if no field has a problem, and otherwise all problems are reported, in the order of
the fields. -/
theorem read_cases (sources : SettingSources) :
    (∃ settings, read sources = .ok settings ∧
      ∀ field : Field, field.result (sources.find? field) = .ok (settings.value field)) ∨
    read sources = .error (Field.all.flatMap (Field.problems sources)) ∧
      Field.all.flatMap (Field.problems sources) ≠ [] := by
  unfold read
  dsimp only
  split
  · next hcloudName hversion htenantId hclientId huseCertificate hcertificatePath hcertificatePassword
        huseSecret hclientSecret huseCommandLine =>
    refine .inl ⟨_, rfl, fun field => ?_⟩
    rw [← fieldValue_eq]
    cases field with
    | cloudName => exact hcloudName
    | version => exact hversion
    | tenantId => exact htenantId
    | clientId => exact hclientId
    | useCertificate => exact huseCertificate
    | certificatePath => exact hcertificatePath
    | certificatePassword => exact hcertificatePassword
    | useSecret => exact huseSecret
    | clientSecret => exact hclientSecret
    | useCommandLine => exact huseCommandLine
  · next hnone =>
    refine .inr ⟨congrArg Except.error ?_, fun hnil => ?_⟩
    · simp only [Field.all, List.flatMap_cons, List.flatMap_nil, List.append_nil, List.append_assoc,
        Field.problems, ← fieldValue_eq]
      rfl
    · -- Without problems every field has a value, and the reader would have taken them.
      have hvalues (field : Field) :
          ∃ value, fieldValue sources field field.readValue (default.value field) = .ok value := by
        rw [fieldValue_eq, ← problemOf_eq_nil_iff]
        exact List.flatMap_eq_nil_iff.mp hnil field field.mem_all
      obtain ⟨_, hcloudName⟩ := hvalues .cloudName
      obtain ⟨_, hversion⟩ := hvalues .version
      obtain ⟨_, htenantId⟩ := hvalues .tenantId
      obtain ⟨_, hclientId⟩ := hvalues .clientId
      obtain ⟨_, huseCertificate⟩ := hvalues .useCertificate
      obtain ⟨_, hcertificatePath⟩ := hvalues .certificatePath
      obtain ⟨_, hcertificatePassword⟩ := hvalues .certificatePassword
      obtain ⟨_, huseSecret⟩ := hvalues .useSecret
      obtain ⟨_, hclientSecret⟩ := hvalues .clientSecret
      obtain ⟨_, huseCommandLine⟩ := hvalues .useCommandLine
      exact hnone _ _ _ _ _ _ _ _ _ _ hcloudName hversion htenantId hclientId huseCertificate
        hcertificatePath hcertificatePassword huseSecret hclientSecret huseCommandLine

/-- Settings with the same values are the same. -/
theorem eq_of_value_eq {first second : Settings}
    (hvalues : ∀ field, first.value field = second.value field) : first = second := by
  cases first
  cases second
  rw [Settings.mk.injEq]
  exact ⟨hvalues .cloudName, hvalues .version, hvalues .tenantId, hvalues .clientId,
    hvalues .useCertificate, hvalues .certificatePath, hvalues .certificatePassword, hvalues .useSecret,
    hvalues .clientSecret, hvalues .useCommandLine⟩

/-- Settings are read exactly when every field gets its value. -/
theorem read_eq_ok_iff (sources : SettingSources) (settings : Settings) :
    read sources = .ok settings ↔
      ∀ field : Field, field.result (sources.find? field) = .ok (settings.value field) := by
  rcases read_cases sources with ⟨made, hmade, hvalues⟩ | ⟨herrors, hne⟩
  · rw [hmade, Except.ok.injEq]
    constructor
    · rintro rfl
      exact hvalues
    · exact fun hothers => eq_of_value_eq fun field =>
        Except.ok.inj ((hvalues field).symm.trans (hothers field))
  · rw [herrors]
    refine ⟨nofun, fun hvalues => absurd ?_ hne⟩
    exact List.flatMap_eq_nil_iff.mpr fun field _ =>
      (problemOf_eq_nil_iff field _).mpr ⟨_, hvalues field⟩

/-- Errors are reported exactly when they are all the problems there are, and there are some. -/
theorem read_eq_error_iff (sources : SettingSources) (errors : List FieldError) :
    read sources = .error errors ↔
      errors = Field.all.flatMap (Field.problems sources) ∧ errors ≠ [] := by
  rcases read_cases sources with ⟨made, hmade, hvalues⟩ | ⟨herrors, hne⟩
  · rw [hmade]
    refine ⟨nofun, fun ⟨herrors, hne⟩ => absurd ?_ hne⟩
    rw [herrors]
    exact List.flatMap_eq_nil_iff.mpr fun field _ =>
      (problemOf_eq_nil_iff field _).mpr ⟨_, hvalues field⟩
  · rw [herrors, Except.error.injEq]
    exact ⟨fun h => ⟨h.symm, h ▸ hne⟩, fun h => h.1.symm⟩

/-- Settings that are read from sources in which every field is resolved alike are the same, and so are the
errors. -/
theorem read_congr {sources other : SettingSources}
    (hsame : ∀ field, other.find? field = sources.find? field) : read other = read sources := by
  unfold read fieldValue
  simp only [hsame]

end Settings

namespace Field

/-- Fields have different names. -/
theorem name_injective : Function.Injective name := by
  intro first second hname
  cases first <;> cases second <;> first | rfl | exact absurd hname (by decide)

/-- A field has a problem when it is resolved to a value that it does not accept. -/
theorem mem_problems_iff (sources : SettingSources) (field : Field) (e : FieldError) :
    e ∈ field.problems sources ↔ ∃ value, sources.Resolves field (some value) ∧
      e.location = field.name ∧ field.readValue value = .error e.problem := by
  unfold problems
  simp only [SettingSources.resolves_iff]
  cases sources.find? field with
  | none => simp [result, Settings.problemOf]
  | some value =>
    simp only [Option.some.injEq, exists_eq_left', result]
    cases field.readValue value with
    | ok _ => simp [Settings.problemOf]
    | error problem =>
      obtain ⟨location, found⟩ := e
      simp [Settings.problemOf, eq_comm]

/-- The problems with some fields are reported in the order of the fields, each field at most once. -/
theorem sublist_locations (sources : SettingSources) (fields : List Field) :
    ((fields.flatMap (problems sources)).map FieldError.location).Sublist (fields.map name) := by
  induction fields with
  | nil => exact List.Sublist.refl _
  | cons field rest ih =>
    rw [List.flatMap_cons, List.map_append, List.map_cons]
    unfold problems Settings.problemOf
    split
    · exact ih.cons field.name
    · exact ih.cons_cons field.name

/-- The report of a problem with a field is one line. -/
theorem newline_not_mem_line (field : Field) (problem : FieldProblem) :
    '\n' ∉ (FieldError.mk field.name problem).line.toList := by
  have hname : '\n' ∉ field.name.toList := by cases field <;> decide
  have hdescription : '\n' ∉ problem.description.toList := by cases problem <;> decide
  have hcode : '\n' ∉ problem.code.toList := by cases problem <;> decide
  simp [FieldError.line, hname, hdescription, hcode]

end Field

namespace SettingSources

/-- The reader reports a problem with a field. -/
def Rejects (sources : SettingSources) (field : Field) (problem : FieldProblem) : Prop :=
  ∃ errors, Settings.read sources = .error errors ∧ ⟨field.name, problem⟩ ∈ errors

/-- Other sources hold the same under the names of a field. -/
def AgreesOn (sources other : SettingSources) (field : Field) : Prop :=
  ∀ name ∈ field.names, other.explicit.lookup name = sources.explicit.lookup name ∧
    other.givenVariables.lookup name = sources.givenVariables.lookup name

/-- The errors are a line for each field that is resolved to a value that it does not accept. -/
structure Reports (sources : SettingSources) (errors : List FieldError) : Prop where
  /-- The fields are reported in their order. -/
  order : (errors.map FieldError.location).Sublist (Field.all.map Field.name)
  /-- No field is reported twice. -/
  nodup : (errors.map FieldError.location).Nodup
  /-- The fields that are reported are those with a value that they do not accept. -/
  mem_iff : ∀ e, e ∈ errors ↔ ∃ field value, sources.Resolves field (some value) ∧
    e.location = field.name ∧ field.readValue value = .error e.problem
  /-- A report is one line. -/
  line : ∀ e ∈ errors, '\n' ∉ e.line.toList

/-- A problem is among all problems exactly when some field has it. -/
theorem mem_all_problems_iff (sources : SettingSources) (e : FieldError) :
    e ∈ Field.all.flatMap (Field.problems sources) ↔ ∃ field value,
      sources.Resolves field (some value) ∧ e.location = field.name ∧
        field.readValue value = .error e.problem := by
  rw [List.mem_flatMap]
  simp only [Field.mem_all, true_and, Field.mem_problems_iff]

/-- The errors of the reader are a report. -/
theorem reports_of_read {sources : SettingSources} {errors : List FieldError}
    (hread : Settings.read sources = .error errors) : sources.Reports errors := by
  obtain ⟨rfl, -⟩ := (Settings.read_eq_error_iff sources errors).mp hread
  have horder := Field.sublist_locations sources Field.all
  refine ⟨horder, horder.nodup (by decide), sources.mem_all_problems_iff, fun e he => ?_⟩
  obtain ⟨field, value, -, hlocation, -⟩ := (sources.mem_all_problems_iff e).mp he
  obtain ⟨location, problem⟩ := e
  rw [show location = field.name from hlocation]
  exact Field.newline_not_mem_line field problem

/-- A field is rejected exactly when it is resolved to a value that it does not accept. -/
theorem rejects_iff (sources : SettingSources) (field : Field) (problem : FieldProblem) :
    sources.Rejects field problem ↔
      ∃ value, sources.Resolves field (some value) ∧ field.readValue value = .error problem := by
  constructor
  · rintro ⟨errors, hread, hmember⟩
    obtain ⟨other, value, hresolves, hname, hproblem⟩ :=
      ((reports_of_read hread).mem_iff ⟨field.name, problem⟩).mp hmember
    cases Field.name_injective hname
    exact ⟨value, hresolves, hproblem⟩
  · rintro ⟨value, hresolves, hproblem⟩
    have hmember := (sources.mem_all_problems_iff ⟨field.name, problem⟩).mpr
      ⟨field, value, hresolves, rfl, hproblem⟩
    exact ⟨_, (Settings.read_eq_error_iff sources _).mpr ⟨rfl, List.ne_nil_of_mem hmember⟩, hmember⟩

/-- A field is resolved alike in sources that hold the same under its names. -/
theorem find?_eq_of_agreesOn {sources other : SettingSources} {field : Field}
    (hagrees : sources.AgreesOn other field) : other.find? field = sources.find? field := by
  have hexplicit : firstOf? other.explicit field.names = firstOf? sources.explicit field.names :=
    firstOf?_eq_of_hidden fun name hname hne => absurd (hagrees name hname).1 hne
  have henvironment :
      firstOf? other.givenVariables field.names = firstOf? sources.givenVariables field.names :=
    firstOf?_eq_of_hidden fun name hname hne => absurd (hagrees name hname).2 hne
  rw [find?, find?, hexplicit, henvironment]

end SettingSources

/-- Where no explicit name starts with an underscore, every field is resolved in one way: to the first
explicit value, or else to the first variable of the environment, or else to its default. Settings are read
exactly when every field accepts what it is resolved to, and otherwise the fields that do not are reported.
What no field looks at changes neither the settings nor the errors, and what is given under the names of the
other fields does not matter to a field. -/
theorem settings_take_first_given (sources : SettingSources) (hplain : sources.GivesNoInstruction) :
    sources.givenVariables = sources.environment ∧
    (∀ field, ∃! value, sources.Resolves field value) ∧
    (∀ settings, Settings.read sources = .ok settings ↔
      ∀ (field : Field) value, sources.Resolves field value →
        field.result value = .ok (settings.value field)) ∧
    ((∃ errors, Settings.read sources = .error errors) ↔
      ∃ (field : Field) (value : SettingValue) (problem : FieldProblem),
        sources.Resolves field (some value) ∧ field.readValue value = .error problem) ∧
    (∀ errors, Settings.read sources = .error errors → sources.Reports errors) ∧
    (∀ other : SettingSources, other.GivesNoInstruction → sources.DiffersWhereHidden other →
      Settings.read other = Settings.read sources) ∧
    ∀ (other : SettingSources) (field : Field), other.GivesNoInstruction → sources.AgreesOn other field →
      ∀ problem, other.Rejects field problem ↔ sources.Rejects field problem := by
  refine ⟨SettingSources.givenVariables_eq_environment hplain, fun field => ?_, fun settings => ?_, ?_,
    fun errors => SettingSources.reports_of_read,
    fun other hother hdiffers =>
      Settings.read_congr (SettingSources.find?_eq_of_differsWhereHidden hplain hother hdiffers),
    fun other field _ hagrees problem => ?_⟩
  · exact ⟨sources.find? field, (sources.resolves_iff field _).mpr rfl,
      fun value hvalue => ((sources.resolves_iff field value).mp hvalue).symm⟩
  · rw [Settings.read_eq_ok_iff]
    simp only [SettingSources.resolves_iff, forall_eq']
  · constructor
    · rintro ⟨errors, hread⟩
      obtain ⟨e, rest, rfl⟩ :=
        List.exists_cons_of_ne_nil ((Settings.read_eq_error_iff sources errors).mp hread).2
      obtain ⟨field, value, hresolves, -, hproblem⟩ :=
        ((SettingSources.reports_of_read hread).mem_iff e).mp List.mem_cons_self
      exact ⟨field, value, e.problem, hresolves, hproblem⟩
    · rintro ⟨field, value, problem, hgiven⟩
      obtain ⟨errors, hread, -⟩ := (sources.rejects_iff field problem).mpr ⟨value, hgiven⟩
      exact ⟨errors, hread⟩
  · simp only [SettingSources.rejects_iff, SettingSources.resolves_iff,
      SettingSources.find?_eq_of_agreesOn hagrees]

/-- Sources with the null value for the tenant, and a version. -/
def hidingSources : SettingSources where
  explicit := [("AZURE_TENANT_ID", .json .null), ("version", .json (.ofString "v2"))]
  environment := [("AZURE_CLIENT_ID", "client")]

/-- Explicit values that are hidden in the sources, or have the name of no field. No field accepts them. -/
def hiddenValues : List (Text × SettingValue) :=
  [("TENANT_ID", .json (.int 5)), ("Version", .json (.int 5))]

/-- Variables that are hidden in the sources, or have the name of no field. -/
def hiddenVariables : List (Text × Text) :=
  [("CLIENT_ID", "other"), ("TOKEN_VERSION", "v9"), ("tenant_id", "tenant"), ("VERSION", "v9")]

/-- The sources with all of these. -/
def crowdedSources : SettingSources where
  explicit := hidingSources.explicit ++ hiddenValues
  environment := hidingSources.environment ++ hiddenVariables

/-- With more values at the end, only what is found under their names can differ. -/
theorem mem_of_lookup_append_ne {α : Type} {values more : List (Text × α)} {name : Text}
    (hne : (values ++ more).lookup name ≠ values.lookup name) : name ∈ more.map Prod.fst := by
  by_contra hother
  have hnone : more.lookup name = none := by
    rw [List.lookup_eq_none_iff]
    intro pair hpair
    exact bne_iff_ne.mpr fun hname => hother (hname ▸ List.mem_map_of_mem hpair)
  rw [List.lookup_append, hnone, Option.or_none] at hne
  exact hne rfl

/-- What is hidden does not matter, even if it would not be accepted. -/
theorem read_crowdedSources :
    hidingSources.GivesNoInstruction ∧ crowdedSources.GivesNoInstruction ∧
      hidingSources.DiffersWhereHidden crowdedSources ∧
      Settings.read crowdedSources = .ok { Settings.default with clientId := some "client" } := by
  have hplain : hidingSources.GivesNoInstruction := by decide
  have hcrowded : crowdedSources.GivesNoInstruction := by decide
  have hvalues : ∀ field ∈ Field.all, ∀ name ∈ hiddenValues.map Prod.fst, name ∈ field.names →
      ∃ earlier ∈ SettingSources.namesBefore field name,
        (hidingSources.explicit.lookup earlier).isSome := by
    decide
  have hvariables : ∀ field ∈ Field.all, ∀ name ∈ hiddenVariables.map Prod.fst, name ∈ field.names →
      (∃ other ∈ field.names, (hidingSources.explicit.lookup other).isSome) ∨
        ∃ earlier ∈ SettingSources.namesBefore field name,
          (hidingSources.environment.lookup earlier).isSome := by
    decide
  have hdiffers : hidingSources.DiffersWhereHidden crowdedSources :=
    ⟨fun name hne field => hvalues field field.mem_all name (mem_of_lookup_append_ne hne),
      fun name hne field => hvariables field field.mem_all name (mem_of_lookup_append_ne hne)⟩
  have hread : Settings.read hidingSources =
      .ok { Settings.default with clientId := some "client" } := rfl
  obtain ⟨-, -, -, -, -, hhidden, -⟩ := settings_take_first_given hidingSources hplain
  exact ⟨hplain, hcrowded, hdiffers, (hhidden crowdedSources hcrowded hdiffers).trans hread⟩

/-- An empty variable for the name of the cloud, and nothing else. -/
def emptyVariable : SettingSources where
  explicit := []
  environment := [("ARM_ENVIRONMENT", "")]

/-- An explicit value whose name tells to pass over empty variables. -/
def ignoringEmpty : List (Text × SettingValue) := [("_env_ignore_empty", .json (.bool true))]

/-- The same variable with this instruction. -/
def instructedVariable : SettingSources where
  explicit := emptyVariable.explicit ++ ignoringEmpty
  environment := emptyVariable.environment

/-- A name that is none of a field can change the settings: the cloud gets its default in place of the empty
name. -/
theorem cloudName_of_instruction :
    emptyVariable.DiffersWhereHidden instructedVariable ∧
      Settings.read emptyVariable = .ok { Settings.default with cloudName := "" } ∧
      Settings.read instructedVariable = .ok Settings.default := by
  have hnone : ∀ field ∈ Field.all, SettingSources.ignoreEmptyName ∉ field.names := by decide
  refine ⟨⟨fun name hne field hname => ?_, fun name hne => absurd rfl hne⟩, rfl, rfl⟩
  have hinstruction : name = SettingSources.ignoreEmptyName :=
    List.mem_singleton.mp (mem_of_lookup_append_ne hne)
  exact absurd (hinstruction ▸ hname) (hnone field field.mem_all)

end CloudAuth
