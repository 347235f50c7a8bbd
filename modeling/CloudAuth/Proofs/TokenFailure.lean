import CloudAuth.Proofs.BundleContents
import CloudAuth.Proofs.RequestForm
import CloudAuth.Proofs.SigningRoom

/-!
# How a call for a token fails

A constructed source can always make its form, unless its key is too short to sign. So a call that is due
fails with an error of its own or with a fault, and which of the two it is depends on the response alone:
`token_or_tokenError_iff` says exactly when no fault comes out.
-/

namespace CloudAuth

/-- The count of bytes in the modulus of the key that a construction signs with. -/
def Construction.modulusSize? (construction : Construction) : Option Nat :=
  match construction.material? with
  | some (.credential c) =>
    match PrivateKey.ofBytes c.privateKey with
    | .ok (.rsa key) => some key.publicKey.size
    | _ => none
  | _ => none

/-- The key of a construction, if it has one, has room for a signature. -/
def Construction.HasRoom (construction : Construction) : Prop :=
  ∀ size, construction.modulusSize? = some size → RsaSignature.minModulusSize ≤ size

namespace ClientSource

/-- A form with an assertion is made exactly when the assertion is. -/
theorem form_isOk_iff_of_assertion {source : ClientSource} (htype : source.authType = .assertion)
    (supply : Supply) :
    (∃ form, (source.form supply).1 = .ok form) ↔
      ∃ text, (assertion source.request supply).1 = .ok text := by
  unfold form
  rw [htype]
  dsimp only
  cases (assertion source.request supply).1 with
  | error fault => simp [Except.map]
  | ok text => simp [Except.map]

/-- What is read as a key is loaded as that key. -/
theorem loadKey_of_ofBytes {bytes : Bytes} {key : PrivateKey} (hread : PrivateKey.ofBytes bytes = .ok key) :
    loadKey (some bytes) = .ok key := by
  rw [loadKey, hread]

/-- What is read as a certificate has the thumbprint of that certificate. -/
theorem loadThumbprint_of_ofBytes? {bytes : Bytes} {certificate : Certificate}
    (hread : Certificate.ofBytes? bytes = some certificate) :
    loadThumbprint (some bytes) = .ok (Certificate.thumbprintText certificate.bytes) := by
  rw [loadThumbprint, Certificate.thumbprint?, hread]
  rfl

/-- An assertion is made with a key and a certificate that can be read exactly when the key has room for
a signature. -/
theorem assertion_isOk_iff {request : TokenRequest} {key : RsaPrivateKey} {thumbprint : List Char}
    (hkey : loadKey request.privateKey = .ok (.rsa key))
    (hthumbprint : loadThumbprint request.certificate = .ok thumbprint) (supply : Supply) :
    (∃ text, (assertion request supply).1 = .ok text) ↔
      RsaSignature.minModulusSize ≤ key.publicKey.size := by
  unfold assertion
  rw [hkey, hthumbprint]
  dsimp only [Except.bind, signWith]
  rw [← Assertion.sign?_isSome_iff key thumbprint (claims request supply)]
  cases Assertion.sign? key thumbprint (claims request supply) with
  | none => simp
  | some text => simp

/-- A form with an assertion holds what was signed with the key of the source, which is an RSA key. -/
theorem form_eq_of_assertion {source : ClientSource} (htype : source.authType = .assertion)
    {supply : Supply} {form : Form} (hform : (source.form supply).1 = .ok form) :
    ∃ key thumbprint chars, loadKey source.request.privateKey = .ok (.rsa key) ∧
      loadThumbprint source.request.certificate = .ok thumbprint ∧
      Assertion.sign? key thumbprint (claims source.request supply) = some chars ∧
      form = commonFields source.request ++ [("client_assertion_type", some assertionType),
        ("client_assertion", some (Text.ofString (String.ofList chars)))] := by
  obtain ⟨text, htext⟩ := (form_isOk_iff_of_assertion htype supply).mp ⟨form, hform⟩
  unfold ClientSource.form at hform
  rw [htype] at hform
  dsimp only at hform
  rw [htext] at hform
  cases hform
  unfold assertion at htext
  cases hkey : loadKey source.request.privateKey with
  | error fault =>
    rw [hkey] at htext
    contradiction
  | ok key =>
    rw [hkey] at htext
    cases hthumbprint : loadThumbprint source.request.certificate with
    | error fault =>
      rw [hthumbprint] at htext
      contradiction
    | ok thumbprint =>
      rw [hthumbprint] at htext
      change signWith key thumbprint (claims source.request supply) = .ok text at htext
      unfold signWith at htext
      split at htext
      · next key =>
        split at htext
        · next chars hsign =>
          cases htext
          exact ⟨key, thumbprint, chars, rfl, rfl, hsign, rfl⟩
        · contradiction
      · contradiction

/-- The assertion in a form, past the fields of every form. -/
theorem lookup_assertion (request : TokenRequest) (text : String) :
    (commonFields request ++ [("client_assertion_type", some assertionType),
      ("client_assertion", some (Text.ofString text))]).lookup "client_assertion" =
        some (some (Text.ofString text)) := by
  unfold commonFields targetFields
  split
  · rfl
  · split <;> rfl

end ClientSource

/-- A constructed source makes its form exactly when its key has room for a signature. -/
theorem Construction.form_isOk_iff {construction : Construction} {source : ClientSource}
    (hsource : construction.authorizer = .ok (.client source)) (supply : Supply) :
    (∃ form, (source.form supply).1 = .ok form) ↔ construction.HasRoom := by
  obtain ⟨registration, material, -, hmaterial, rfl⟩ := construction.source_eq hsource
  unfold HasRoom modulusSize?
  rw [hmaterial]
  cases material with
  | secret s => exact ⟨fun _ => nofun, fun _ => ⟨_, rfl⟩⟩
  | credential credential =>
    obtain ⟨files, path, password, hload⟩ := construction.load_of_material? hmaterial
    obtain ⟨⟨key, hkey⟩, certificate, hcertificate⟩ := Credential.reads_of_load hload
    rw [ClientSource.form_isOk_iff_of_assertion rfl,
      ClientSource.assertion_isOk_iff (ClientSource.loadKey_of_ofBytes hkey)
        (ClientSource.loadThumbprint_of_ofBytes? hcertificate)]
    simp only [hkey, Option.some.injEq, forall_eq']

/-- The way in which a constructed source authenticates has a name. -/
theorem Construction.authName_ne_error {construction : Construction} {source : ClientSource}
    (hsource : construction.authorizer = .ok (.client source)) (fault : Fault) :
    ClientSource.authName source.authType ≠ .error fault := by
  obtain ⟨registration, material, -, -, rfl⟩ := construction.source_eq hsource
  cases material <;> exact nofun

/-- A call for a token by a constructed source gives a token or fails with a token error exactly when the
last token can be given again, or the key has room for a signature and the response can be read. All
other calls fail with a fault. -/
theorem token_or_tokenError_iff (construction : Construction) (source : ClientSource)
    (hsource : construction.authorizer = .ok (.client source)) (cache : TokenCache) (supply : Supply)
    (houtcome : ∀ kind message, supply.response ≠ .broken kind message) :
    (((∃ token, (source.token cache supply).1 = .ok token) ∨
        ∃ error, (source.token cache supply).1 = .error (.token error)) ↔
      (∃ token, ClientSource.reusable? cache supply.now = some token) ∨
        construction.HasRoom ∧
          ∀ response, supply.response = .response response → ¬ response.IsUnreadable) ∧
    ((∃ token, (source.token cache supply).1 = .ok token) ∨
      (∃ error, (source.token cache supply).1 = .error (.token error)) ∨
        ∃ fault, (source.token cache supply).1 = .error (.fault fault)) := by
  have hforms := construction.form_isOk_iff hsource supply
  have hcall := source.tokenCall_token cache supply
  generalize source.token cache supply = call at hcall ⊢
  cases hcall with
  | @reused token hkept =>
    exact ⟨⟨fun _ => .inl ⟨token, hkept⟩, fun _ => .inl ⟨token, rfl⟩⟩, .inl ⟨token, rfl⟩⟩
  | @unnamed fault hdue hname => exact absurd hname (construction.authName_ne_error hsource fault)
  | @unsent name fault hdue hname hform =>
    -- Without a form there is no room, and the call fails with what kept the form from being made.
    have hroom : ¬ construction.HasRoom := by
      rw [← hforms]
      rintro ⟨form, hmade⟩
      rw [hform] at hmade
      contradiction
    refine ⟨⟨?_, ?_⟩, .inr (.inr ⟨fault, rfl⟩)⟩
    · rintro (⟨token, htoken⟩ | ⟨error, herror⟩)
      · cases htoken
      · cases herror
    · rintro (⟨token, hkept⟩ | ⟨hhas, -⟩)
      · cases hdue.symm.trans hkept
      · exact absurd hhas hroom
  | @refused name form error hdue hname hform hread =>
    rcases ClientSource.readOutcome_error_cases houtcome hread with
      ⟨⟨e, rfl⟩, hreadable⟩ | ⟨⟨fault, rfl⟩, response, hresponse, hunreadable⟩
    · exact ⟨⟨fun _ => .inr ⟨hforms.mp ⟨form, hform⟩, hreadable⟩, fun _ => .inr ⟨e, rfl⟩⟩,
        .inr (.inl ⟨e, rfl⟩)⟩
    · refine ⟨⟨?_, ?_⟩, .inr (.inr ⟨fault, rfl⟩)⟩
      · rintro (⟨token, htoken⟩ | ⟨error, herror⟩)
        · cases htoken
        · cases herror
      · rintro (⟨token, hkept⟩ | ⟨-, hreadable⟩)
        · cases hdue.symm.trans hkept
        · exact absurd hunreadable (hreadable response hresponse)
  | @issued name form token hdue hname hform hread =>
    exact ⟨⟨fun _ => .inr ⟨hforms.mp ⟨form, hform⟩,
      ClientSource.not_isUnreadable_of_readOutcome hread⟩, fun _ => .inl ⟨token, rfl⟩⟩,
      .inl ⟨token, rfl⟩⟩

/-- A registration in the worldwide cloud. -/
def worldwideRegistration : Registration := ⟨.worldwide, .msGraph, .v2, some "tenant", "client"⟩

/-- A source that uses a secret. -/
def worldwideSource : ClientSource := worldwideRegistration.source (.secret "secret")

/-- A supply whose next request meets this outcome. -/
def supplyOf (outcome : HttpOutcome) : Supply where
  now := 0
  identifiers _ := "identifier"
  responses := [outcome]
  replies := []

/-- A response that is accepted and holds an empty list. -/
def listResponse : HttpResponse := okResponse "[]"

/-- A call fails with a token error when the server cannot be reached. -/
theorem tokenError_of_unreachable_server :
    (Construction.withSecret worldwideRegistration (some "secret")).authorizer =
        .ok (.client worldwideSource) ∧
      (∀ kind message,
        (supplyOf (.failure "Timeout" "timed out")).response ≠ .broken kind message) ∧
      ((∃ token, (worldwideSource.token .empty (supplyOf (.failure "Timeout" "timed out"))).1 =
          .ok token) ∨
        ∃ error, (worldwideSource.token .empty (supplyOf (.failure "Timeout" "timed out"))).1 =
          .error (.token error)) := by
  have hsource : (Construction.withSecret worldwideRegistration (some "secret")).authorizer =
      .ok (.client worldwideSource) := rfl
  have houtcome : ∀ kind message,
      (supplyOf (.failure "Timeout" "timed out")).response ≠ .broken kind message := nofun
  have hcall := (token_or_tokenError_iff _ worldwideSource hsource .empty
    (supplyOf (.failure "Timeout" "timed out")) houtcome).1
  exact ⟨hsource, houtcome, hcall.mpr (.inr ⟨nofun, nofun⟩)⟩

/-- A call fails with a fault when the response holds a list. -/
theorem not_tokenError_of_list_payload :
    (Construction.withSecret worldwideRegistration (some "secret")).authorizer =
        .ok (.client worldwideSource) ∧
      (∀ kind message, (supplyOf (.response listResponse)).response ≠ .broken kind message) ∧
      ¬ ((∃ token, (worldwideSource.token .empty (supplyOf (.response listResponse))).1 = .ok token) ∨
        ∃ error, (worldwideSource.token .empty (supplyOf (.response listResponse))).1 =
          .error (.token error)) := by
  have hfault : (worldwideSource.token .empty (supplyOf (.response listResponse))).1 =
      .error (.fault (.notAnObject (.arr []))) := rfl
  refine ⟨rfl, nofun, ?_⟩
  rw [hfault]
  rintro (⟨token, htoken⟩ | ⟨error, herror⟩)
  · cases htoken
  · cases herror

end CloudAuth
