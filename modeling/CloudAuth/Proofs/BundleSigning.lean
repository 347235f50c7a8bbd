import CloudAuth.Proofs.Resolution
import CloudAuth.Proofs.TokenFailure

/-!
# A bundle that is accepted signs later

The key of a credential is written down when a bundle is decoded, and read again whenever an assertion is
made, by another reader. `bundle_signs_later` says that nothing is lost on the way: the reader gets the
key of the bundle, and a source of the bundle makes its form at every time if the key has room for a
signature.
-/

namespace CloudAuth

/-- A bundle gives the same credential by whatever name messages call it. -/
theorem Credential.decode_of_decode {openBundle : BundleReader} {data : Bytes} {password : Option Text}
    {source : Text} {credential : Credential}
    (hdecode : decode openBundle data password source = .ok credential) (other : Text) :
    decode openBundle data password other = .ok credential := by
  obtain ⟨secret, contents, hsecret, hopen, hmade⟩ := decode_eq_ok_iff.mp hdecode
  exact decode_eq_ok_iff.mpr
    ⟨secret, contents, hsecret, hopen, ofContents_eq_ok_iff.mpr (ofContents_eq_ok_iff.mp hmade)⟩

/-- The source of a credential makes a form with everything that it draws on, if the credential can be
read and its key has room for a signature. -/
theorem Registration.form_isOk_of_reads (registration : Registration) {credential : Credential}
    {key : RsaPrivateKey} {certificate : Certificate}
    (hkey : PrivateKey.ofBytes credential.privateKey = .ok (.rsa key))
    (hcertificate : Certificate.ofBytes? credential.certificate = some certificate)
    (hroom : RsaSignature.minModulusSize ≤ key.publicKey.size) (supply : Supply) :
    ∃ form, ((registration.source (.credential credential)).form supply).1 = .ok form := by
  rw [ClientSource.form_isOk_iff_of_assertion rfl]
  exact (ClientSource.assertion_isOk_iff (ClientSource.loadKey_of_ofBytes hkey)
    (ClientSource.loadThumbprint_of_ofBytes? hcertificate) supply).mpr hroom

/-- Out of every bundle that is accepted comes the key of the bundle, with a certificate that has a
thumbprint. From such a bundle a source is made, whatever it is made for, and with everything that it draws
on the source makes a form with an assertion signed with the key, if the key has room for a signature. -/
theorem bundle_signs_later (data : Bytes) (password : Option Text) (name : Text)
    {credential : Credential}
    (hdecode : Credential.decode Bundle.open? data password name = .ok credential) :
    ∃ secret contents key thumbprint, Credential.secretOf password = .ok secret ∧
      Bundle.open? data secret = some contents ∧ contents.key = some (.rsa key) ∧
      ClientSource.loadKey (some credential.privateKey) = .ok (.rsa key) ∧
      ClientSource.loadThumbprint (some credential.certificate) = .ok thumbprint ∧
      ∀ (files : FileSystem) (path : GivenPath) (registration : Registration) (file : Bytes),
        path.normal.fileName = .ok file → files file = .ok data →
        ∃ source, (Construction.fromBundle files registration path password).authorizer =
            .ok (.client source) ∧
          (RsaSignature.minModulusSize ≤ key.publicKey.size →
            ∀ supply, ∃ form chars, (source.form supply).1 = .ok form ∧
              Assertion.sign? key thumbprint (ClientSource.claims source.request supply) = some chars ∧
              form.lookup "client_assertion" = some (some (Text.ofString (String.ofList chars)))) := by
  obtain ⟨secret, contents, key, certificate, hsecret, hopen, hkey, -, hread, hcertificate⟩ :=
    Credential.reads_of_decode hdecode
  have hloadKey := ClientSource.loadKey_of_ofBytes hread
  have hloadThumbprint := ClientSource.loadThumbprint_of_ofBytes? hcertificate
  refine ⟨secret, contents, key, _, hsecret, hopen, hkey, hloadKey, hloadThumbprint,
    fun files path registration file hname hfile => ?_⟩
  have hload : Credential.load files.platform path password =
      (.ok credential, [.fileRead path.normal, .log (Credential.decodingRecord path.normal)]) := by
    rw [Credential.load_of_read path hname hfile, FileSystem.openBundle_platform,
      Credential.decode_of_decode hdecode]
  refine ⟨registration.source (.credential credential),
    congrArg Prod.fst (Authorizer.ofBundle_of_load registration hload), fun hroom supply => ?_⟩
  obtain ⟨form, hform⟩ := registration.form_isOk_of_reads hread hcertificate hroom supply
  obtain ⟨signer, thumbprint, chars, hsigner, hthumbprint, hsign, rfl⟩ :=
    ClientSource.form_eq_of_assertion rfl hform
  cases hsigner.symm.trans hloadKey
  cases hthumbprint.symm.trans hloadThumbprint
  exact ⟨_, chars, hform, hsign, ClientSource.lookup_assertion _ _⟩

section SigningBundle

open Asn1

/-- A key whose primes are `7 * 2 ^ 290 + 1` and `3 * 2 ^ 276 + 1`. -/
def signingKey : RsaPrivateKey where
  modulus := 0x1c000000000000000000000000000000000000000000000000000000000000000000000001 *
    0x3000000000000000000000000000000000000000000000000000000000000000000001
  publicExponent := 0x10001
  privateExponent := 0x4ffff0000ffff0000ffff0000ffff0000ffff0000ffff0000ffff0000ffff0000ffff0001
  prime1 := 0x1c000000000000000000000000000000000000000000000000000000000000000000000001
  prime2 := 0x3000000000000000000000000000000000000000000000000000000000000000000001
  exponent1 := 0x4ffff0000ffff0000ffff0000ffff0000ffff0000ffff0000ffff0000ffff0000ffff0001
  exponent2 := 0x1f0000ffff0000ffff0000ffff0000ffff0000ffff0000ffff0000ffff0000ffff0001
  coefficient := 0x2b1e49eac7db9fc1a427628ca8f1219d5e3258564e4acf5bac9d27e8d6b3b93418eb986f6

/-- An algorithm by its name. -/
def namedAlgorithm (name : Bytes) : Element := ofSequence [⟨identifierTag, name⟩, ⟨nullTag, []⟩]

/-- A value of some kind. -/
def ofKind (kind : Bytes) (value : Element) : Element :=
  ofSequence [⟨identifierTag, kind⟩, ⟨contextTag 0, value.bytes⟩]

/-- A certificate that names nobody and is not signed, with a key of some algorithm. -/
def namelessCertificate (key : PublicKey) (algorithm : Element) (written : Bytes) : Certificate where
  bytes :=
    let signature := namedAlgorithm (identifierContent [1, 2, 840, 113549, 1, 1, 11])
    let time (s : String) : Element := ⟨0x17, Bytes.ofChars s.toList⟩
    let signed := ofSequence [ofNatural 1, signature, ofSequence [],
      ofSequence [time "250101000000Z", time "350101000000Z"], ofSequence [],
      ofSequence [algorithm, ⟨bitStringTag, 0 :: written⟩]]
    (ofSequence [signed, signature, ⟨bitStringTag, [0]⟩]).bytes
  publicKey := some key
  bytes_ne_nil := List.cons_ne_nil _ _

/-- A certificate of an RSA key. -/
def rsaCertificate (key : RsaPublicKey) : Certificate :=
  namelessCertificate (.rsa key) (namedAlgorithm Identifier.rsa)
    (ofSequence [ofNatural key.modulus, ofNatural key.exponent]).bytes

/-- The certificate of the key. -/
def signingCertificate : Certificate := rsaCertificate signingKey.publicKey

/-- A bundle with the key and the certificate, neither of them encrypted. -/
def signingBundle : Bytes :=
  let octets (bytes : Bytes) : Element := ⟨octetStringTag, bytes⟩
  let key := ofKind Identifier.keyBag
    (ofSequence [ofNatural 0, namedAlgorithm Identifier.rsa, octets signingKey.bytes])
  let certificate := ofKind Identifier.certificateBag
    (ofKind Identifier.x509Certificate (octets signingCertificate.bytes))
  let safe := ofKind Identifier.data (octets (ofSequence [key, certificate]).bytes)
  (ofSequence [ofNatural 3, ofKind Identifier.data (octets (ofSequence [safe]).bytes)]).bytes

/-- The bundle opens without a password. -/
theorem open?_signingBundle :
    Bundle.open? signingBundle none = some ⟨some (.rsa signingKey), [signingCertificate]⟩ := by
  decide +kernel

/-- The path of the bundle. -/
def signingPath : GivenPath := .text "app.pfx"

/-- A directory with the bundle. -/
def signingFiles : FileSystem := FileTree.read (.ofFiles [("app.pfx", signingBundle)])

/-- The credential in the bundle. -/
def signingCredential : Credential := ⟨signingKey.bytes, signingCertificate.bytes⟩

/-- The certificate is the one of the key. -/
theorem leaf?_signingKey :
    Credential.leaf? (.rsa signingKey.publicKey) [signingCertificate] = some signingCertificate := by
  decide +kernel

/-- The credential is decoded from the bundle with each password that the bundle opens with. -/
theorem decode_signingBundle_of_open? {password : Option Text} {secret : Option Bytes}
    (hsecret : Credential.secretOf password = .ok secret) (hopen : Bundle.open? signingBundle secret =
      some ⟨some (.rsa signingKey), [signingCertificate]⟩) (source : Text) :
    Credential.decode Bundle.open? signingBundle password source = .ok signingCredential :=
  Credential.decode_eq_ok_iff.mpr ⟨secret, _, hsecret, hopen,
    Credential.ofContents_eq_ok_iff.mpr ⟨signingKey, signingCertificate, rfl, leaf?_signingKey, rfl⟩⟩

/-- The credential is decoded from the bundle without a password. -/
theorem decode_signingBundle (source : Text) :
    Credential.decode Bundle.open? signingBundle none source = .ok signingCredential :=
  decode_signingBundle_of_open? rfl open?_signingBundle source

/-- The bundle is the file at its path. -/
theorem signingFiles_signingPath : signingPath.normal.fileName = .ok (Unicode.utf8 "app.pfx") ∧
    signingFiles (Unicode.utf8 "app.pfx") = .ok signingBundle :=
  ⟨rfl, rfl⟩

/-- The credential is loaded from the file. -/
theorem load_signingPath : Credential.load signingFiles.platform signingPath none =
    (.ok signingCredential,
      [.fileRead signingPath.normal, .log (Credential.decodingRecord signingPath.normal)]) := by
  rw [Credential.load_of_read signingPath signingFiles_signingPath.1 signingFiles_signingPath.2,
    FileSystem.openBundle_platform, decode_signingBundle]

/-- The source of the bundle, in the worldwide cloud. -/
def signingSource : ClientSource := worldwideRegistration.source (.credential signingCredential)

/-- The source is made from the bundle. -/
theorem signingSource_authorizer :
    (Construction.fromBundle signingFiles worldwideRegistration signingPath none).authorizer =
      .ok (.client signingSource) :=
  congrArg Prod.fst (Authorizer.ofBundle_of_load worldwideRegistration load_signingPath)

/-- The credential is read again as the key and the certificate. -/
theorem reads_signingCredential :
    PrivateKey.ofBytes signingCredential.privateKey = .ok (.rsa signingKey) ∧
      Certificate.ofBytes? signingCredential.certificate = some signingCertificate := by
  obtain ⟨secret, contents, key, certificate, hsecret, hopen, hkey, hleaf, hreads⟩ :=
    Credential.reads_of_decode (decode_signingBundle "app.pfx")
  cases hsecret
  cases hopen.symm.trans open?_signingBundle
  cases hkey
  cases hleaf.symm.trans leaf?_signingKey
  exact hreads

/-- A source of the bundle makes a form with a signed assertion, with everything that it draws on. -/
theorem forms_of_signingBundle :
    Credential.decode Bundle.open? signingBundle none "app.pfx" = .ok signingCredential ∧
      ∃ source thumbprint, (Construction.fromBundle signingFiles worldwideRegistration signingPath
          none).authorizer = .ok (.client source) ∧
        ∀ supply, ∃ form chars, (source.form supply).1 = .ok form ∧
          Assertion.sign? signingKey thumbprint (ClientSource.claims source.request supply) =
            some chars ∧
          form.lookup "client_assertion" = some (some (Text.ofString (String.ofList chars))) := by
  have hdecode := decode_signingBundle "app.pfx"
  obtain ⟨secret, contents, key, thumbprint, hsecret, hopen, hkey, -, -, hsources⟩ :=
    bundle_signs_later signingBundle none "app.pfx" hdecode
  cases hsecret
  cases hopen.symm.trans open?_signingBundle
  cases hkey
  obtain ⟨source, hsource, hforms⟩ := hsources signingFiles signingPath worldwideRegistration _
    signingFiles_signingPath.1 signingFiles_signingPath.2
  exact ⟨hdecode, source, thumbprint, hsource, hforms (by decide +kernel)⟩

end SigningBundle

end CloudAuth
