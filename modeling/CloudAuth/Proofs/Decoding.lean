import CloudAuth.Proofs.BundleRefusal
import CloudAuth.Proofs.Pairing
import CloudAuth.Proofs.SecretIndependence

/-!
# What decoding a bundle comes to

Any bytes come to a credential or to one of four errors, under any password that can be encoded, and
whatever opens bundles. `Decoding` lists the results in the order in which they win over each other: first
that the bundle cannot be opened, then that it has no key, then that no certificate fits the key, and last
that the key is of another kind. `decode_eq_iff` says that the list is complete and that no two of its ways
meet. A password that cannot be encoded is a fault, and nothing is opened with it.
-/

namespace CloudAuth

open Asn1

/-- The results of decoding a bundle, in the order in which they win over each other. -/
inductive Decoding (openBundle : BundleReader) (data : Bytes) (password : Option Text) (source : Text) :
    Except Error Credential → Prop where
  /-- The password cannot be encoded. -/
  | unencodable {t : Text} {e : EncodeError} (hpassword : password = some t)
      (hencode : t.encode = .error e) :
      Decoding openBundle data password source (.error (.fault (.unencodable e)))
  /-- The bundle cannot be opened. -/
  | corrupt {secret : Option Bytes} (hsecret : Credential.secretOf password = .ok secret)
      (hclosed : openBundle data secret = none) :
      Decoding openBundle data password source (.error (.decode (.corrupt source)))
  /-- There is no key, whatever certificates there are. -/
  | noKey {secret : Option Bytes} {certificates : List Certificate}
      (hsecret : Credential.secretOf password = .ok secret)
      (hopen : openBundle data secret = some ⟨none, certificates⟩) :
      Decoding openBundle data password source (.error (.decode (.noKey source)))
  /-- No certificate fits the key, of whatever kind that is. -/
  | noCertificate {secret : Option Bytes} {key : PrivateKey} {certificates : List Certificate}
      (hsecret : Credential.secretOf password = .ok secret)
      (hopen : openBundle data secret = some ⟨some key, certificates⟩)
      (hnone : ∀ c ∈ certificates, ¬ key.Fits c) :
      Decoding openBundle data password source (.error (.decode (.noCertificate source)))
  /-- A certificate fits the key, which is no RSA key. -/
  | unsupportedKey {secret : Option Bytes} {key : PrivateKey} {certificates : List Certificate}
      {certificate : Certificate} (hsecret : Credential.secretOf password = .ok secret)
      (hopen : openBundle data secret = some ⟨some key, certificates⟩)
      (hcertificate : certificate ∈ certificates) (hfits : key.Fits certificate)
      (hkind : ∀ rsaKey, key ≠ .rsa rsaKey) :
      Decoding openBundle data password source (.error (.decode (.unsupportedKey key.kindName source)))
  /-- A certificate fits the key, which is an RSA key. -/
  | decoded {secret : Option Bytes} {key : RsaPrivateKey} {before after : List Certificate}
      {certificate : Certificate} (hsecret : Credential.secretOf password = .ok secret)
      (hopen : openBundle data secret = some ⟨some (.rsa key), before ++ certificate :: after⟩)
      (hbefore : ∀ other ∈ before, ¬ (PrivateKey.rsa key).Fits other)
      (hfits : (PrivateKey.rsa key).Fits certificate) :
      Decoding openBundle data password source (.ok ⟨key.bytes, certificate.bytes⟩)

namespace Credential

/-- Contents without a key give no credential. -/
theorem ofContents_of_noKey (source : Text) (certificates : List Certificate) :
    ofContents source ⟨none, certificates⟩ = .error (.noKey source) := rfl

/-- Contents with a key of another kind that a certificate fits give no credential. -/
theorem ofContents_of_foreign (source : Text) {key : PrivateKey} {certificates : List Certificate}
    {certificate : Certificate} (hcertificate : certificate ∈ certificates)
    (hfits : key.Fits certificate) (hkind : ∀ rsaKey, key ≠ .rsa rsaKey) :
    ofContents source ⟨some key, certificates⟩ = .error (.unsupportedKey key.kindName source) := by
  obtain ⟨first, hfirst⟩ : ∃ first, certificates.find? (key.Fits ·) = some first := by
    rw [← Option.isSome_iff_exists, List.find?_isSome]
    exact ⟨certificate, hcertificate, decide_eq_true hfits⟩
  simp only [ofContents, leaf?_eq_find?, hfirst]

/-- Contents with an RSA key and certificates give the credential of the first one that fits. -/
theorem ofContents_of_fits (source : Text) {key : RsaPrivateKey} {before after : List Certificate}
    {certificate : Certificate} (hbefore : ∀ other ∈ before, ¬ (PrivateKey.rsa key).Fits other)
    (hfits : (PrivateKey.rsa key).Fits certificate) :
    ofContents source ⟨some (.rsa key), before ++ certificate :: after⟩ =
      .ok ⟨key.bytes, certificate.bytes⟩ := by
  have hfirst : (before ++ certificate :: after).find? ((PrivateKey.rsa key).Fits ·) =
      some certificate :=
    List.find?_eq_some_iff_append.mpr
      ⟨decide_eq_true hfits, before, after, rfl, by simpa using hbefore⟩
  simp only [ofContents, leaf?_eq_find?, hfirst]

variable {openBundle : BundleReader} {data : Bytes} {password : Option Text} {source : Text}

/-- What decoding a bundle that opens gives is one of the results listed. -/
theorem decoding_of_contents {secret : Option Bytes} {contents : BundleContents}
    (hsecret : secretOf password = .ok secret) (hopen : openBundle data secret = some contents) :
    Decoding openBundle data password source ((ofContents source contents).mapError Error.decode) := by
  obtain ⟨_ | key, certificates⟩ := contents
  · exact .noKey hsecret hopen
  · cases hfirst : certificates.find? (key.Fits ·) with
    | none =>
      have hnone : ∀ c ∈ certificates, ¬ key.Fits c := by simpa using hfirst
      rw [ofContents_of_not_fits source hnone]
      exact .noCertificate hsecret hopen hnone
    | some certificate =>
      obtain ⟨hfits, before, after, rfl, hbefore⟩ := List.find?_eq_some_iff_append.mp hfirst
      have hfits := of_decide_eq_true hfits
      by_cases hrsa : ∃ rsaKey, key = .rsa rsaKey
      · obtain ⟨key, rfl⟩ := hrsa
        have hothers : ∀ other ∈ before, ¬ (PrivateKey.rsa key).Fits other := by simpa using hbefore
        rw [ofContents_of_fits source hothers hfits]
        exact .decoded hsecret hopen hothers hfits
      · have hcertificate : certificate ∈ before ++ certificate :: after := by simp
        have hkind := not_exists.mp hrsa
        rw [ofContents_of_foreign source hcertificate hfits hkind]
        exact .unsupportedKey hsecret hopen hcertificate hfits hkind

/-- What decoding a bundle gives is one of the results listed. -/
theorem decoding_decode (openBundle : BundleReader) (data : Bytes) (password : Option Text)
    (source : Text) :
    Decoding openBundle data password source (decode openBundle data password source) := by
  cases hsecret : secretOf password with
  | error e =>
    obtain ⟨t, hpassword, hencode⟩ := (secretOf_eq_error_iff password e).mp hsecret
    rw [decode_of_unencodable hsecret]
    exact .unencodable hpassword hencode
  | ok secret =>
    cases hopen : openBundle data secret with
    | none =>
      rw [decode_of_unopened hsecret hopen]
      exact .corrupt hsecret hopen
    | some contents =>
      rw [decode_of_opened hsecret hopen]
      exact decoding_of_contents hsecret hopen

/-- Each of the results listed is what decoding a bundle gives. -/
theorem decode_of_decoding {result : Except Error Credential}
    (h : Decoding openBundle data password source result) :
    decode openBundle data password source = result := by
  cases h with
  | unencodable hpassword hencode =>
    exact decode_of_unencodable ((secretOf_eq_error_iff password _).mpr ⟨_, hpassword, hencode⟩) ..
  | corrupt hsecret hclosed => exact decode_of_unopened hsecret hclosed source
  | noKey hsecret hopen =>
    rw [decode_of_opened hsecret hopen, ofContents_of_noKey]
    rfl
  | noCertificate hsecret hopen hnone =>
    rw [decode_of_opened hsecret hopen, ofContents_of_not_fits source hnone]
    rfl
  | unsupportedKey hsecret hopen hcertificate hfits hkind =>
    rw [decode_of_opened hsecret hopen, ofContents_of_foreign source hcertificate hfits hkind]
    rfl
  | decoded hsecret hopen hbefore hfits =>
    rw [decode_of_opened hsecret hopen, ofContents_of_fits source hbefore hfits]
    rfl

/-- The error of a bundle without a credential, its kind, its cause and its message tell the name of the
bundle and which of a few things is wrong with it, whatever the password is. -/
theorem error_cases_of_decode {e : DecodeError}
    (hdecode : decode openBundle data password source = .error (.decode e)) :
    (e = .corrupt source ∧ e.kindName = "DecodeError" ∧ e.cause? = some "ValueError" ∧
        e.message = "could not decode pkcs12 credential store " ++ Text.quoted source ++
          ": invalid password or corrupt bundle") ∨
      (e = .noKey source ∧ e.kindName = "DecodeError" ∧ e.cause? = none ∧
        e.message = "no private key found in pkcs12 store " ++ Text.quoted source) ∨
      (e = .noCertificate source ∧ e.kindName = "DecodeError" ∧ e.cause? = none ∧
        e.message = "no certificate found in pkcs12 store " ++ Text.quoted source) ∨
      ∃ kind, e = .unsupportedKey kind source ∧ e.kindName = "UnsupportedKeyError" ∧ e.cause? = none ∧
        e.message = "unsupported non-rsa key (" ++ kind ++ ") was found in pkcs12 store " ++
          Text.quoted source := by
  have hof := isOf_of_decode hdecode
  cases e with
  | unreadable path failure => exact absurd hof id
  | corrupt called =>
    obtain rfl : called = source := hof
    exact .inl ⟨rfl, rfl, rfl, rfl⟩
  | noKey called =>
    obtain rfl : called = source := hof
    exact .inr (.inl ⟨rfl, rfl, rfl, rfl⟩)
  | noCertificate called =>
    obtain rfl : called = source := hof
    exact .inr (.inr (.inl ⟨rfl, rfl, rfl, rfl⟩))
  | unsupportedKey kind called =>
    obtain ⟨rfl, -⟩ := hof
    exact .inr (.inr (.inr ⟨kind, rfl, rfl, rfl, rfl⟩))

/-- Decoding comes to something else than a credential or an error of the bundle exactly with a password
that cannot be encoded. -/
theorem settled_iff (openBundle : BundleReader) (data : Bytes) (password : Option Text) (source : Text) :
    ((∃ credential, decode openBundle data password source = .ok credential) ∨
        ∃ e, decode openBundle data password source = .error (.decode e)) ↔
      ∀ t, password = some t → t.IsWhole := by
  rw [← secretOf_isOk_iff]
  constructor
  · intro hsettled
    cases hsecret : secretOf password with
    | ok secret => exact ⟨secret, rfl⟩
    | error e =>
      rw [decode_of_unencodable hsecret] at hsettled
      rcases hsettled with ⟨credential, h⟩ | ⟨d, h⟩
      · cases h
      · cases h
  · rintro ⟨secret, hsecret⟩
    cases hdecode : decode openBundle data password source with
    | ok credential => exact .inl ⟨credential, rfl⟩
    | error e =>
      obtain ⟨d, rfl⟩ := exists_of_decode_error hsecret hdecode
      exact .inr ⟨d, rfl⟩

end Credential

namespace Bundle

/-- For the reader of this project, a bundle is reported as corrupt exactly for one of the reasons listed,
and as one without a key exactly if it opens and none of its bags has one. -/
theorem decode_errors_iff {password : Option Text} {secret : Option Bytes}
    (hsecret : Credential.secretOf password = .ok secret) (data : Bytes) (source : Text) :
    (Credential.decode open? data password source = .error (.decode (.corrupt source)) ↔
      Unopenable data secret) ∧
    (Credential.decode open? data password source = .error (.decode (.noKey source)) ↔
      ∃ passphrase bags key certificates, Opening data secret passphrase bags key certificates ∧
        ∀ bag ∈ bags, hasKey bag = false) := by
  have hdecoding := Credential.decoding_decode open? data password source
  refine ⟨⟨fun hcorrupt => ?_, fun hclosed => ?_⟩, ⟨fun hnoKey => ?_, ?_⟩⟩
  · rw [hcorrupt] at hdecoding
    cases hdecoding with
    | corrupt hsame hclosed =>
      cases hsecret.symm.trans hsame
      exact open?_eq_none_iff.mp hclosed
  · exact Credential.decode_of_unopened hsecret (open?_eq_none_iff.mpr hclosed) source
  · rw [hnoKey] at hdecoding
    cases hdecoding with
    | noKey hsame hopen =>
      cases hsecret.symm.trans hsame
      obtain ⟨passphrase, bags, hopening⟩ := open?_eq_some_iff.mp hopen
      exact ⟨passphrase, bags, none, _, hopening, hopening.key_eq_none_iff.mp rfl⟩
  · rintro ⟨passphrase, bags, key, certificates, hopening, hbags⟩
    obtain rfl := hopening.key_eq_none_iff.mpr hbags
    rw [Credential.decode_of_opening hsecret hopening, Credential.ofContents_of_noKey]
    rfl

end Bundle

section Samples

/-- A point on the curve of 256 bits: the base point, which belongs to the key one. -/
def basePoint : Bytes :=
  4 :: Bytes.ofNat 32 Curve.secp256r1.baseX ++ Bytes.ofNat 32 Curve.secp256r1.baseY

/-- The algorithm of keys on the curve. -/
def curveAlgorithm : Element :=
  ofSequence [⟨identifierTag, Identifier.ellipticKey⟩, ⟨identifierTag, Identifier.secp256r1⟩]

/-- The certificate of the key on the curve. -/
def curveCertificate : Certificate :=
  namelessCertificate (.elliptic Identifier.secp256r1 basePoint) curveAlgorithm basePoint

/-- The bags with the key on the curve and its certificate. -/
def curveBags : List Element :=
  let point : Element := ⟨bitStringTag, 0 :: basePoint⟩
  let key := ofSequence [ofNatural 1, ⟨octetStringTag, Bytes.ofNat 32 1⟩, ⟨contextTag 1, point.bytes⟩]
  [ofKind Identifier.keyBag (ofSequence [ofNatural 0, curveAlgorithm, ⟨octetStringTag, key.bytes⟩]),
    certificateBag curveCertificate]

/-- The bundle with the key on the curve opens without a password. -/
theorem open?_curveBags : Bundle.open? (bundleOf curveBags) none =
    some ⟨some (.elliptic Identifier.secp256r1 basePoint), [curveCertificate]⟩ := by
  decide +kernel

end Samples

end CloudAuth
