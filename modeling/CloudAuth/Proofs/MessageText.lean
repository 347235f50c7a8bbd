import CloudAuth.Proofs.Decoding
import CloudAuth.Proofs.TenantNormalization

/-!
# What stands in the messages of the configuration

A message is put together from words that are always the same and from values of the settings. Each value
is in quotes, also inside the message of an error that another one wraps, and a text in quotes has nothing
in it that cannot be printed. So no value can break a message into lines or change how the rest of it is
shown.
-/

namespace CloudAuth

namespace Text

/-- The characters at which a text is broken into lines. -/
def lineBreaks : List Char :=
  ['\n', '\x0b', '\x0c', '\r', '\x1c', '\x1d', '\x1e', '\x85', '\u2028', '\u2029']

/-- No line break can be printed. -/
theorem isPrintable_of_mem_lineBreaks : ∀ c ∈ lineBreaks, isPrintable c = false := by
  have hall : lineBreaks.all (!isPrintable ·) = true := by decide +kernel
  simpa using hall

/-- Hexadecimal digits can be printed. -/
theorem isPrintable_of_mem_hexDigits {width n : Nat} {c : Char} (hc : c ∈ hexDigits width n) :
    isPrintable c = true := by
  have hdigit : ∀ d < 16, isPrintable (hexDigit d) = true := by decide
  induction width generalizing n with
  | zero => cases hc
  | succ width ih =>
    rw [hexDigits, List.mem_append, List.mem_singleton] at hc
    rcases hc with hc | rfl
    · exact ih hc
    · exact hdigit _ (Nat.mod_lt n (by decide))

/-- A numeric escape can be printed. -/
theorem isPrintable_of_mem_numericEscape {n : Nat} {c : Char} (hc : c ∈ numericEscape n) :
    isPrintable c = true := by
  have hescape {kind : Char} (hkind : isPrintable kind = true) {width : Nat}
      (hc : c ∈ '\\' :: kind :: hexDigits width n) : isPrintable c = true := by
    rcases List.mem_cons.mp hc with rfl | hc
    · rfl
    · rcases List.mem_cons.mp hc with rfl | hc
      · exact hkind
      · exact isPrintable_of_mem_hexDigits hc
  unfold numericEscape at hc
  split at hc
  · exact hescape rfl hc
  · split at hc
    · exact hescape rfl hc
    · exact hescape rfl hc

/-- Between quotes that can be printed, a code point becomes something that can be printed. -/
theorem isPrintable_of_mem_escapeCodePoint {mark : Char} (hmark : isPrintable mark = true)
    {point : CodePoint} {c : Char} (hc : c ∈ escapeCodePoint mark point) : isPrintable c = true := by
  have hshort {letter : Char} (hletter : isPrintable letter = true) (hc : c ∈ ['\\', letter]) :
      isPrintable c = true := by
    rcases List.mem_pair.mp hc with rfl | rfl
    · rfl
    · exact hletter
  cases point with
  | surrogate unit => exact isPrintable_of_mem_numericEscape hc
  | scalar d =>
    unfold escapeCodePoint escapeChar at hc
    dsimp only at hc
    split at hc
    · next hd =>
      rcases hd with rfl | rfl
      · exact hshort hmark hc
      · exact hshort rfl hc
    · split at hc
      · exact hshort rfl hc
      · split at hc
        · exact hshort rfl hc
        · split at hc
          · exact hshort rfl hc
          · split at hc
            · next hd => exact List.mem_singleton.mp hc ▸ hd
            · exact isPrintable_of_mem_numericEscape hc

/-- A text in quotes can be printed. -/
theorem isPrintable_of_mem_quoted {t : Text} {c : Char} (hc : c ∈ (quoted t).toList) :
    isPrintable c = true := by
  have hmark : isPrintable (quoteMark t) = true := by
    unfold quoteMark
    split <;> rfl
  rw [quoted, String.toList_ofList, quotedChars, List.cons_append, List.mem_cons, List.mem_append,
    List.mem_singleton, List.mem_flatMap] at hc
  rcases hc with rfl | ⟨point, -, hc⟩ | rfl
  · exact hmark
  · exact isPrintable_of_mem_escapeCodePoint hmark hc
  · exact hmark

/-- A numeral can be printed. -/
theorem isPrintable_of_mem_intText {n : Int} {c : Char} (hc : c ∈ (Decimal.intText n).toList) :
    isPrintable c = true := by
  have hdigit : ∀ k < 128, (Char.ofNat k).isDigit = true → isPrintable (Char.ofNat k) = true := by decide
  have hnat {c : Char} (hc : c ∈ Decimal.natChars n.natAbs) : isPrintable c = true := by
    have hc : c.isDigit = true := Nat.isDigit_of_mem_toDigits (by decide) (by decide) hc
    have hle : c ≤ '9' := by
      simp only [Char.isDigit, Bool.and_eq_true, decide_eq_true_eq] at hc
      exact hc.2
    rw [← Char.ofNat_toNat c] at hc ⊢
    exact hdigit c.toNat (Nat.lt_of_le_of_lt (UInt32.le_iff_toNat_le.mp hle) (by decide)) hc
  rw [Decimal.intText, String.toList_ofList, Decimal.intChars] at hc
  split at hc
  · rcases List.mem_cons.mp hc with rfl | hc
    · rfl
    · exact hnat hc
  · exact hnat hc

end Text

/-- The words of messages: all that stands in them besides values and besides what comes from the system or
from the names of keys. -/
def messageWords : List String :=
  ["no Authorizer could be configured, please check your configuration",
    "could not configure ", "client_certificate", "client_secret", "azure_cli", " Authorizer: ",
    "Unknown environment ", "; expected one of: ",
    "canary, china, germany, global, usgovernmentl4, usgovernmentl5",
    "invalid Azure CLI tenant ", SetupError.tenantAdvice,
    "could not read pkcs12 store at ", ": ", "[Errno ", "] ", "",
    "could not decode pkcs12 credential store ", ": invalid password or corrupt bundle",
    "no private key found in pkcs12 store ", "no certificate found in pkcs12 store ",
    "unsupported non-rsa key (", ") was found in pkcs12 store "]

/-- A message in which nothing stands but words and, in quotes, some values. -/
inductive Quotes (values : List Text) : String → Prop where
  /-- Words. -/
  | words {s : String} (hs : s ∈ messageWords) : Quotes values s
  /-- The number of an error of the system. -/
  | number (n : Int) : Quotes values (Decimal.intText n)
  /-- What the system says about an error. -/
  | system (failure : ReadFailure) : Quotes values failure.wording.words
  /-- The name of the kind of a key. -/
  | kind (key : PrivateKey) : Quotes values key.kindName
  /-- A value in quotes. -/
  | quoted {value : Text} (hvalue : value ∈ values) : Quotes values (Text.quoted value)
  /-- One such message after the other. -/
  | append {s t : String} (hs : Quotes values s) (ht : Quotes values t) : Quotes values (s ++ t)

/-- The name of the kind of a key can be printed. -/
theorem PrivateKey.isPrintable_kindName (key : PrivateKey) :
    key.kindName.toList.all Text.isPrintable = true := by
  have hnames : ∀ name ∈ (["RSAPrivateKey", "ECPrivateKey", "Ed25519PrivateKey", "Ed448PrivateKey",
      "DSAPrivateKey"] : List String), name.toList.all Text.isPrintable = true := by
    decide +kernel
  cases key with
  | other kind publicBytes => exact kind.isPrintable_words
  | rsa | elliptic | ed25519 | ed448 | dsa => exact hnames _ (by simp [kindName])

namespace Quotes

variable {values : List Text}

/-- Such a message can be printed. -/
theorem isPrintable {s : String} (hquotes : Quotes values s) :
    ∀ c ∈ s.toList, Text.isPrintable c = true := by
  have hwords : messageWords.all (·.toList.all Text.isPrintable) = true := by decide +kernel
  induction hquotes with
  | words hs => exact List.all_eq_true.mp (List.all_eq_true.mp hwords _ hs)
  | number n => exact fun c hc => Text.isPrintable_of_mem_intText hc
  | system failure => exact List.all_eq_true.mp failure.wording.isPrintable_words
  | kind key => exact List.all_eq_true.mp key.isPrintable_kindName
  | quoted hvalue => exact fun c hc => Text.isPrintable_of_mem_quoted hc
  | append hs ht hfirst hsecond =>
    intro c hc
    rw [String.toList_append, List.mem_append] at hc
    exact hc.elim (hfirst c) (hsecond c)

/-- The message that no method can be chosen has no value in it. -/
theorem noMethod : Quotes values ConfigurationError.noMethod.message :=
  words List.mem_cons_self

/-- The message about a cloud that is not known quotes its name. -/
theorem unknownCloud {name : Text} (hname : name ∈ values) :
    Quotes values (SetupError.unknownCloud name).message :=
  (((words (by simp [messageWords])).append (quoted hname)).append (words (by simp [messageWords]))).append
    (words (by simp [messageWords, cloudNames]))

/-- The message about a tenant that the command line does not take quotes it. -/
theorem invalidTenant {tenant : Text} (htenant : tenant ∈ values) :
    Quotes values (SetupError.invalidTenant tenant).message :=
  (((words (by simp [messageWords])).append (quoted htenant)).append
    (words (by simp [messageWords]))).append (words (by simp [messageWords]))

/-- The message of an error of the system quotes the path, if it tells it. -/
theorem failure {path : Text} (hpath : path ∈ values) (failure : ReadFailure) :
    Quotes values (failure.message path) := by
  have hend : Quotes values (if failure.namesFile then ": " ++ Text.quoted path else "") := by
    split
    · exact (words (by simp [messageWords])).append (quoted hpath)
    · exact words (by simp [messageWords])
  exact ((((words (by simp [messageWords])).append (number _)).append
    (words (by simp [messageWords]))).append (system failure)).append hend

/-- The message about a path where nothing can be read quotes it, also in the message that it wraps. -/
theorem unreadable {path : Path} (hpath : path.text ∈ values) (failure : ReadFailure) :
    Quotes values (DecodeError.unreadable path failure).message :=
  (((words (by simp [messageWords])).append (quoted hpath)).append
    (words (by simp [messageWords]))).append (Quotes.failure hpath failure)

/-- The message about the contents of a bundle quotes what the bundle is called. -/
theorem ofContents {source : Text} (hsource : source ∈ values) {e : DecodeError}
    (he : e.IsOf source) : Quotes values e.message := by
  cases e with
  | unreadable path failure => exact absurd he id
  | corrupt called =>
    obtain rfl : called = source := he
    exact ((words (by simp [messageWords])).append (quoted hsource)).append
      (words (by simp [messageWords]))
  | noKey called =>
    obtain rfl : called = source := he
    exact (words (by simp [messageWords])).append (quoted hsource)
  | noCertificate called =>
    obtain rfl : called = source := he
    exact (words (by simp [messageWords])).append (quoted hsource)
  | unsupportedKey kindName called =>
    obtain ⟨rfl, key, rfl⟩ := he
    exact (((words (by simp [messageWords])).append (kind key)).append
      (words (by simp [messageWords]))).append (quoted hsource)

/-- The message about a method that failed wraps the message of its cause. -/
theorem methodFailed (method : AuthMethod) {cause : MethodError} (hcause : Quotes values cause.message) :
    Quotes values (ConfigurationError.methodFailed method cause).message := by
  have hmethod : Quotes values method.name := by
    cases method <;> exact words (by simp [messageWords, AuthMethod.name])
  exact (((words (by simp [messageWords])).append hmethod).append
    (words (by simp [messageWords]))).append hcause

end Quotes

/-- The values of the settings that messages show: the name of the cloud, the tenant between its blanks and
the path. -/
def Settings.shownValues (settings : Settings) : List Text :=
  settings.cloudName :: bareTenant settings.tenantId ::
    (settings.certificatePath.map Path.text).toList

/-- The path of the settings is among the values that messages show. -/
theorem Settings.mem_shownValues_of_path {settings : Settings} {path : Path}
    (hpath : settings.certificatePath = some path) : path.text ∈ settings.shownValues := by
  simp [shownValues, hpath]

/-- The message about a bundle that fails quotes values of the settings alone. -/
theorem Settings.BundleFailure.quotes {platform : Platform} {settings : Settings} {e : DecodeError}
    (hfailure : settings.BundleFailure platform e) : Quotes settings.shownValues e.message := by
  cases hfailure with
  | unreadable hpath hname hread => exact .unreadable (mem_shownValues_of_path hpath) _
  | undecodable hpath hname hread hdecode =>
    exact .ofContents (mem_shownValues_of_path hpath) (Credential.isOf_of_decode hdecode)

/-- The message of an error of the configuration has nothing in it but words that are always the same, what
the system says about an error, the names of kinds of keys and, in quotes, the name of the cloud, the tenant
and the path. All of it can be printed, and there is no line break in it. -/
theorem messages_quote_values (platform : Platform) (settings : Settings) (api : Api)
    {e : ConfigurationError}
    (herror : (Authorizer.ofSettings platform settings (.known api)).1 = .error (.configuration e)) :
    Quotes settings.shownValues e.message ∧ (∀ c ∈ e.message.toList, Text.isPrintable c = true) ∧
      ∀ c ∈ Text.lineBreaks, c ∉ e.message.toList := by
  have hquotes : Quotes settings.shownValues e.message := by
    have hway := resolution_ofSettings platform settings api
    generalize Authorizer.ofSettings platform settings (.known api) = call at hway herror
    cases hway with
    | unselected hselect =>
      cases herror
      exact .noMethod
    | unknownCloud hselect hcloud =>
      cases herror
      exact .methodFailed _ (.unknownCloud (by simp [Settings.shownValues]))
    | unloaded hselect hcloud hpath hload =>
      rcases Settings.bundleFailure_of_load_error hpath hload with
        ⟨fault, rfl, -⟩ | ⟨d, rfl, hfailure⟩
      · cases herror
      · cases herror
        exact .methodFailed _ hfailure.quotes
    | certificate hselect hcloud hpath hload => cases herror
    | secret hselect hcloud hsecret => cases herror
    | invalidTenant hselect hcloud htenant hname =>
      cases herror
      rw [CommandLineSource.givenTenant_eq] at htenant
      split at htenant
      · cases htenant
      · cases htenant
        exact .methodFailed _ (.invalidTenant (by simp [Settings.shownValues]))
    | commandLine hselect hcloud htenant => cases herror
  refine ⟨hquotes, hquotes.isPrintable, fun c hbreak hc => ?_⟩
  exact absurd ((hquotes.isPrintable c hc).symm.trans (Text.isPrintable_of_mem_lineBreaks c hbreak))
    (by decide)

/-- A file system that lets nobody read anything. -/
def closedFiles : FileSystem := fun _ => .error ⟨13, ⟨"Permission denied", by decide⟩, true⟩

/-- A path with a line break, with a character that turns the direction of writing around, and with a byte
that was no UTF-8. -/
def brokenPath : Text := [.scalar 'a', .scalar '\n', .scalar '\u202e', .surrogate 0xDCE4]

/-- Such a path is shown with escapes, each time. -/
theorem message_of_broken_path :
    ∃ e, (Authorizer.ofSettings closedFiles.platform (Settings.ofBundlePath brokenPath none)
        (.known .msGraph)).1 = .error (.configuration e) ∧
      e.message = "could not configure client_certificate Authorizer: could not read pkcs12 store at " ++
        "'a\\n\\u202e\\udce4': [Errno 13] Permission denied: 'a\\n\\u202e\\udce4'" ∧
      '\n' ∉ e.message.toList := by
  have hfailed : (Authorizer.ofSettings closedFiles.platform (Settings.ofBundlePath brokenPath none)
      (.known .msGraph)).1 = .error (.configuration (.methodFailed .clientCertificate
        (.decode (.unreadable (Path.ofText brokenPath) ⟨13, ⟨"Permission denied", by decide⟩, true⟩)))) :=
    rfl
  obtain ⟨-, -, hlines⟩ := messages_quote_values _ _ _ hfailed
  exact ⟨_, hfailed, by decide +kernel, hlines '\n' (by simp [Text.lineBreaks])⟩

end CloudAuth
