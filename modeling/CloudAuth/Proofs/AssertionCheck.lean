import CloudAuth.Proofs.AssertionReading
import CloudAuth.Proofs.Run
import CloudAuth.Proofs.SignatureCheck

/-!
# Posted assertions are valid

Whoever gets a request of a source of a bundle can check it: the header of the assertion names a
certificate of the bundle, and the signature is valid under the public key in that certificate. The key
and the certificate take different ways from the bundle to the assertion, one through its written form and
the other through its thumbprint, and `posted_assertion_verifies` says that they still belong together.
-/

namespace CloudAuth

/-- An assertion is valid under a certificate: the header names the certificate by its thumbprint, and the
signature over the first two parts is valid under the public key in it. -/
def Assertion.IsValidUnder (text : String) (certificate : Certificate) : Prop :=
  ∃ header payload signature bytes key, parts text.toList = [header, payload, signature] ∧
    readSegment? header = some (.object [("alg", .ofString "RS256"), ("typ", .ofString "JWT"),
      ("x5t", .ofString (String.ofList (Certificate.thumbprintText certificate.bytes)))]) ∧
    Base64.decodeBare? .urlSafe signature = some bytes ∧
    certificate.publicKey = some (.rsa key) ∧
    RsaSignature.verify key (Bytes.ofChars (header ++ '.' :: payload)) bytes = true

/-- An assertion is valid under the certificate that it was signed for, if this carries the public half of
the key. -/
theorem Assertion.isValidUnder_of_sign? {key : RsaPrivateKey} {certificate : Certificate}
    (hconsistent : key.isConsistent = true) (hprime1 : key.prime1.Prime) (hprime2 : key.prime2.Prime)
    (hpublic : certificate.publicKey = some (.rsa key.publicKey)) {claims : Claims} {chars : List Char}
    (hsign : sign? key (Certificate.thumbprintText certificate.bytes) claims = some chars) :
    IsValidUnder (String.ofList chars) certificate := by
  obtain ⟨signature, hsignature, rfl⟩ := Option.map_eq_some_iff.mp hsign
  refine ⟨_, _, _, signature, key.publicKey,
    (congrArg parts String.toList_ofList).trans (parts_signed _ claims signature), ?_, ?_, hpublic,
    RsaSignature.verify_of_sign? hconsistent hprime1 hprime2 hsignature⟩
  · rw [readSegment?_jsonSegment (isPortable_assertionHeader _), assertionHeader_eq]
  · exact Base64.decodeBare?_encodeBare .urlSafe signature

/-- Every assertion that a source of a bundle posts, at any point of any run, names a certificate of the
bundle and is valid under it. -/
theorem posted_assertion_verifies {files : FileSystem} {registration : Registration} {path : GivenPath}
    {password : Option Text} {file data : Bytes} {secret : Option Bytes} {contents : BundleContents}
    {key : RsaPrivateKey} {source : ClientSource} (hname : path.normal.fileName = .ok file)
    (hread : files file = .ok data) (hsecret : Credential.secretOf password = .ok secret)
    (hopen : Bundle.open? data secret = some contents) (hkey : contents.key = some (.rsa key))
    (hprime1 : key.prime1.Prime) (hprime2 : key.prime2.Prime)
    (hsource : (Construction.fromBundle files registration path password).authorizer =
      .ok (.client source)) :
    ∃ certificate ∈ contents.certificates,
      Certificate.ofBytes? certificate.bytes = some certificate ∧
      ∀ state steps, ∀ exchange ∈ (Authorizer.client source).exchanges state steps,
        ∃ text : String, exchange.post.form.lookup "client_assertion" = some (some (Text.ofString text)) ∧
          Assertion.IsValidUnder text certificate := by
  obtain ⟨credential, hload, rfl⟩ := Authorizer.ofBundle_eq_ok registration hsource
  obtain ⟨_, _, hnamed, hfile, hdecode⟩ := Credential.decode_of_load hload
  cases hname.symm.trans hnamed
  cases hread.symm.trans hfile
  obtain ⟨_, _, _, certificate, hencoded, hopened, hheld, hleaf, hprivate, hcertificate⟩ :=
    Credential.reads_of_decode hdecode
  cases hsecret.symm.trans hencoded
  cases hopen.symm.trans hopened
  cases hkey.symm.trans hheld
  have hmember := List.mem_of_find?_eq_some hleaf
  have hopenRead := Bundle.isRead_of_open? hopen
  obtain ⟨e, hinfo⟩ := hopenRead.key _ hkey
  refine ⟨certificate, hmember, hopenRead.certificates certificate hmember,
    fun state steps exchange hexchange => ?_⟩
  obtain ⟨supply, form, hform, hpost⟩ := Authorizer.form_of_mem_exchanges hexchange
  obtain ⟨loaded, thumbprint, chars, hloaded, hthumbprint, hsign, rfl⟩ :=
    ClientSource.form_eq_of_assertion rfl hform
  cases hloaded.symm.trans (ClientSource.loadKey_of_ofBytes hprivate)
  cases hthumbprint.symm.trans (ClientSource.loadThumbprint_of_ofBytes? hcertificate)
  rw [hpost]
  exact ⟨_, ClientSource.lookup_assertion _ _, Assertion.isValidUnder_of_sign?
    (PrivateKey.isConsistent_of_ofInfo? hinfo) hprime1 hprime2 (Credential.publicKey_of_leaf? hleaf) hsign⟩

/-- The first prime of the key in the bundle is a prime. -/
theorem prime_prime1_signingKey : signingKey.prime1.Prime :=
  Modular.prime_of_power 7 290 3 (by norm_num) (by decide +kernel) (by decide +kernel)
    (by decide +kernel) (by decide +kernel)

/-- The second prime of the key in the bundle is a prime. -/
theorem prime_prime2_signingKey : signingKey.prime2.Prime :=
  Modular.prime_of_power 3 276 19 (by norm_num) (by decide +kernel) (by decide +kernel)
    (by decide +kernel) (by decide +kernel)

/-- A run of the source of the bundle posts an assertion, which is valid under the certificate of the
bundle. -/
theorem signingSource_posts_valid :
    signingPath.normal.fileName = .ok (Unicode.utf8 "app.pfx") ∧
      signingFiles (Unicode.utf8 "app.pfx") = .ok signingBundle ∧
      Bundle.open? signingBundle none = some ⟨some (.rsa signingKey), [signingCertificate]⟩ ∧
      signingKey.prime1.Prime ∧ signingKey.prime2.Prime ∧
      (Construction.fromBundle signingFiles worldwideRegistration signingPath none).authorizer =
        .ok (.client signingSource) ∧
      ∃ (exchange : Exchange) (text : String), exchange ∈ (Authorizer.client signingSource).exchanges
          (.start (supplyOf (.failure "Timeout" "timed out"))) [.token] ∧
        exchange.post.form.lookup "client_assertion" = some (some (Text.ofString text)) ∧
        Assertion.IsValidUnder text signingCertificate := by
  obtain ⟨hname, hread⟩ := signingFiles_signingPath
  obtain ⟨certificate, hcertificate, -, hvalid⟩ := posted_assertion_verifies hname hread rfl
    open?_signingBundle rfl prime_prime1_signingKey prime_prime2_signingKey signingSource_authorizer
  rw [List.mem_singleton.mp hcertificate] at hvalid
  obtain ⟨form, hform⟩ := worldwideRegistration.form_isOk_of_reads reads_signingCredential.1
    reads_signingCredential.2 (by decide +kernel) (supplyOf (.failure "Timeout" "timed out"))
  have hposts : ((Authorizer.client signingSource).step
      (.start (supplyOf (.failure "Timeout" "timed out"))) .token).2.2.posts =
        [signingSource.postOf form] := by
    rw [Authorizer.trace_step_of_asksToken _ .token trivial]
    exact ClientSource.posts_token_of_form rfl rfl hform
  have hmember : (⟨signingSource.postOf form, .failure "Timeout" "timed out", 0⟩ : Exchange) ∈
      (Authorizer.client signingSource).exchanges
        (.start (supplyOf (.failure "Timeout" "timed out"))) [.token] := by
    rw [Authorizer.exchanges, Authorizer.exchangesOf, hposts]
    exact List.mem_cons_self
  obtain ⟨text, htext, hunder⟩ := hvalid _ _ _ hmember
  exact ⟨hname, hread, open?_signingBundle, prime_prime1_signingKey, prime_prime2_signingKey,
    signingSource_authorizer, _, text, hmember, htext, hunder⟩

end CloudAuth
