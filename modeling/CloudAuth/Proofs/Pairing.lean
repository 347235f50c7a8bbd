import CloudAuth.Proofs.BagOrder
import CloudAuth.Proofs.BundleSigning

/-!
# The certificate that goes with a key

A bundle may hold a whole chain of certificates, in any order and with doubles. The one that goes with
the key is the first that carries its public half, and no other certificate has any bearing on what comes
out of the bundle: `Widened` puts in certificates that do not fit the key, anywhere, and any certificates
behind the first one that fits, and the result stays the same.
-/

namespace CloudAuth

open Asn1

namespace PrivateKey

/-- Whether a certificate carries the public half of a key. -/
def Fits (key : PrivateKey) (certificate : Certificate) : Prop :=
  certificate.publicKey = some key.publicKey

instance (key : PrivateKey) (certificate : Certificate) : Decidable (key.Fits certificate) :=
  inferInstanceAs (Decidable (certificate.publicKey = some key.publicKey))

end PrivateKey

namespace Credential

/-- The certificate that is taken for a key is the first one that fits it. -/
theorem leaf?_eq_find? (key : PrivateKey) (certificates : List Certificate) :
    leaf? key.publicKey certificates = certificates.find? fun c => key.Fits c := by
  unfold leaf?
  congr 1
  funext certificate
  exact Bool.beq_eq_decide_eq certificate.publicKey (some key.publicKey)

/-- What comes out of contents depends on the certificates only through the first one that fits the
key. -/
theorem ofContents_congr (source : Text) {key : Option PrivateKey} {first second : List Certificate}
    (hsame : ∀ k, key = some k → first.find? (k.Fits ·) = second.find? (k.Fits ·)) :
    ofContents source ⟨key, first⟩ = ofContents source ⟨key, second⟩ := by
  cases key with
  | none => rfl
  | some k => simp only [ofContents, leaf?_eq_find?, hsame k rfl]

/-- Contents with a key that no certificate fits give no credential. -/
theorem ofContents_of_not_fits (source : Text) {key : PrivateKey} {certificates : List Certificate}
    (hnone : ∀ c ∈ certificates, ¬ key.Fits c) :
    ofContents source ⟨some key, certificates⟩ = .error (.noCertificate source) := by
  have hleaf : leaf? key.publicKey certificates = none := by
    rw [leaf?_eq_find?, List.find?_eq_none]
    simpa using hnone
  simp only [ofContents, hleaf]

/-- What comes out of a bundle that opens comes out of what is found in it. -/
theorem decode_of_opening {data : Bytes} {password : Option Text} {secret : Option Bytes}
    {passphrase : Passphrase} {bags : List Element} {key : Option PrivateKey}
    {certificates : List Certificate} (hsecret : secretOf password = .ok secret)
    (hopening : Bundle.Opening data secret passphrase bags key certificates) (source : Text) :
    decode Bundle.open? data password source =
      (ofContents source ⟨key, certificates⟩).mapError Error.decode :=
  decode_of_opened hsecret (Bundle.open?_eq_some_iff.mpr ⟨passphrase, bags, hopening⟩) source

end Credential

namespace Bundle

/-- Whether some bags are others with certificates put in that have no bearing on the key: once a
certificate that fits has been passed, any at all, and before that those that do not fit. -/
inductive Widened (key : Option PrivateKey) : (passed : Bool) → List Element → List Element → Prop where
  /-- There are no bags. -/
  | nil {passed : Bool} : Widened key passed [] []
  /-- The first bag is the same. -/
  | keep {passed : Bool} {bags wider : List Element} (bag : Element)
      (hrest : Widened key passed bags wider) : Widened key passed (bag :: bags) (bag :: wider)
  /-- The first bag is the same, and holds a certificate that fits. -/
  | pass {bags wider : List Element} {bag : Element} {certificate : Certificate} {k : PrivateKey}
      (hkey : key = some k) (hbag : certificatesOf? bag = some [certificate])
      (hfits : k.Fits certificate) (hrest : Widened key true bags wider) :
      Widened key false (bag :: bags) (bag :: wider)
  /-- The first bag is put in. -/
  | insert {passed : Bool} {bags wider : List Element} {bag : Element} {certificate : Certificate}
      (hbag : certificatesOf? bag = some [certificate])
      (hfree : passed = true ∨ ∀ k, key = some k → ¬ k.Fits certificate)
      (hrest : Widened key passed bags wider) : Widened key passed bags (bag :: wider)

namespace Widened

variable {key : Option PrivateKey} {passed : Bool} {bags wider : List Element}

/-- The first key is in the same bag. -/
theorem find?_hasKey_eq (h : Widened key passed bags wider) : wider.find? hasKey = bags.find? hasKey := by
  induction h with
  | nil => rfl
  | keep bag _ ih => rw [List.find?_cons, List.find?_cons, ih]
  | pass _ _ _ _ ih => rw [List.find?_cons, List.find?_cons, ih]
  | @insert _ _ _ bag certificate hbag _ _ ih =>
    have hplain : hasKey bag = false := by
      cases hkey : hasKey bag with
      | false => rfl
      | true => cases hbag.symm.trans (certificatesOf?_of_hasKey hkey)
    rw [List.find?_cons, hplain, ih]

/-- The first key is the same. -/
theorem firstKey?_eq (h : Widened key passed bags wider) (passphrase : Passphrase) :
    firstKey? passphrase wider = firstKey? passphrase bags := by
  rw [firstKey?, h.find?_hasKey_eq, firstKey?]

/-- The certificates that were there can be read exactly if all can, and until one that fits has been
passed, the first one that fits is the same. -/
theorem certificates_cases (h : Widened key passed bags wider) :
    (certificatesIn? bags = none ∧ certificatesIn? wider = none) ∨
      ∃ first second, certificatesIn? bags = some first ∧ certificatesIn? wider = some second ∧
          (passed = false → ∀ k, key = some k → first.find? (k.Fits ·) = second.find? (k.Fits ·)) := by
  induction h with
  | nil => exact .inr ⟨[], [], rfl, rfl, fun _ _ _ => rfl⟩
  | keep bag _ ih =>
    rw [certificatesIn?_cons, certificatesIn?_cons]
    cases certificatesOf? bag with
    | none => exact .inl ⟨rfl, rfl⟩
    | some own =>
      rcases ih with ⟨hbags, hwider⟩ | ⟨first, second, hbags, hwider, hsame⟩
      · rw [hbags, hwider]
        exact .inl ⟨rfl, rfl⟩
      · rw [hbags, hwider]
        refine .inr ⟨own ++ first, own ++ second, rfl, rfl, fun hpassed k hk => ?_⟩
        rw [List.find?_append, List.find?_append, hsame hpassed k hk]
  | pass hkey hbag hfits _ ih =>
    rw [certificatesIn?_cons, certificatesIn?_cons, hbag]
    rcases ih with ⟨hbags, hwider⟩ | ⟨first, second, hbags, hwider, -⟩
    · rw [hbags, hwider]
      exact .inl ⟨rfl, rfl⟩
    · rw [hbags, hwider]
      refine .inr ⟨_, _, rfl, rfl, fun _ k hk => ?_⟩
      cases hkey.symm.trans hk
      simp [hfits]
  | insert hbag hfree _ ih =>
    rw [certificatesIn?_cons, hbag]
    rcases ih with ⟨hbags, hwider⟩ | ⟨first, second, hbags, hwider, hsame⟩
    · rw [hwider]
      exact .inl ⟨hbags, rfl⟩
    · rw [hwider]
      refine .inr ⟨first, _, hbags, rfl, fun hpassed k hk => ?_⟩
      have hother := hfree.resolve_left (by simp [hpassed]) k hk
      simp [hother, hsame hpassed k hk]

end Widened

end Bundle

namespace Credential

/-- Certificates without a bearing on the key change nothing in what comes out of a bundle. -/
theorem decode_eq_of_widened {data other : Bytes} {password otherPassword : Option Text}
    {secret otherSecret : Option Bytes} {passphrase : Passphrase} {bags wider : List Element}
    (hsecret : secretOf password = .ok secret) (hother : secretOf otherPassword = .ok otherSecret)
    (hbags : Bundle.bagsUnder? data secret = some (passphrase, bags))
    (hwider : Bundle.bagsUnder? other otherSecret = some (passphrase, wider))
    (h : Bundle.Widened (Bundle.firstKey? passphrase bags).join false bags wider) (source : Text) :
    decode Bundle.open? other otherPassword source = decode Bundle.open? data password source := by
  simp only [decode, hsecret, hother, Bundle.open?_eq, hbags, hwider, Option.bind_some, h.firstKey?_eq]
  cases hkey : Bundle.firstKey? passphrase bags with
  | none => rfl
  | some key =>
    rw [hkey] at h
    rcases h.certificates_cases with ⟨hfirst, hsecond⟩ | ⟨first, second, hfirst, hsecond, hsame⟩
    · rw [hfirst, hsecond]
    · rw [hfirst, hsecond]
      exact congrArg (Except.mapError Error.decode) (ofContents_congr source (hsame rfl)).symm

end Credential

/-- The credential in a bundle is the first key there with the first certificate that carries its public
half. Bundles with the same key and the same first certificate that fits it give the same result, whatever
other certificates they hold, and so do a bundle and the same with certificates put in that do not fit
the key, or that come behind one that fits. A bundle with a key that no certificate fits fails with an
error that says so. -/
theorem first_fitting_certificate_decides (data : Bytes) (password : Option Text) (source : Text) :
    (∀ credential, Credential.decode Bundle.open? data password source = .ok credential →
      ∃ secret passphrase bags key before certificate after,
        Credential.secretOf password = .ok secret ∧
        Bundle.Opening data secret passphrase bags (some (.rsa key))
          (before ++ certificate :: after) ∧
        certificate.publicKey = some (.rsa ⟨key.modulus, key.publicExponent⟩) ∧
        (∀ other ∈ before, other.publicKey ≠ some (.rsa ⟨key.modulus, key.publicExponent⟩)) ∧
        PrivateKey.ofBytes credential.privateKey = .ok (.rsa key) ∧
        credential.certificate = certificate.bytes ∧
        Certificate.ofBytes? credential.certificate = some certificate) ∧
    (∀ {secret}, Credential.secretOf password = .ok secret →
      (∀ {passphrase bags key certificates} {other : Bytes}
          {otherPassword otherSecret otherPassphrase otherBags others},
        Credential.secretOf otherPassword = .ok otherSecret →
        Bundle.Opening data secret passphrase bags key certificates →
        Bundle.Opening other otherSecret otherPassphrase otherBags key others →
        (∀ k, key = some k → certificates.find? (k.Fits ·) = others.find? (k.Fits ·)) →
        Credential.decode Bundle.open? other otherPassword source =
          Credential.decode Bundle.open? data password source) ∧
      (∀ {passphrase bags} {other : Bytes} {otherPassword otherSecret wider},
        Credential.secretOf otherPassword = .ok otherSecret →
        Bundle.bagsUnder? data secret = some (passphrase, bags) →
        Bundle.bagsUnder? other otherSecret = some (passphrase, wider) →
        Bundle.Widened (Bundle.firstKey? passphrase bags).join false bags wider →
        Credential.decode Bundle.open? other otherPassword source =
          Credential.decode Bundle.open? data password source) ∧
      (∀ {passphrase bags key certificates},
        Bundle.Opening data secret passphrase bags (some key) certificates →
        (∀ c ∈ certificates, ¬ key.Fits c) →
        Credential.decode Bundle.open? data password source =
          .error (.decode (.noCertificate source)))) := by
  refine ⟨fun credential hdecode => ?_, fun hsecret => ⟨?_, ?_, ?_⟩⟩
  · obtain ⟨secret, ⟨found, certificates⟩, key, certificate, hsecret, hopen, hkey, hleaf, hread,
      hcertificate⟩ := Credential.reads_of_decode hdecode
    obtain rfl : found = some (.rsa key) := hkey
    obtain ⟨passphrase, bags, hopening⟩ := Bundle.open?_eq_some_iff.mp hopen
    have hfirst := (Credential.leaf?_eq_find? (.rsa key) certificates).symm.trans hleaf
    obtain ⟨hfits, before, after, rfl, hbefore⟩ := List.find?_eq_some_iff_append.mp hfirst
    obtain ⟨_, _, hsame, hsameOpen, hmade⟩ := Credential.decode_eq_ok_iff.mp hdecode
    cases hsecret.symm.trans hsame
    cases hopen.symm.trans hsameOpen
    obtain ⟨_, _, hsameKey, hsameLeaf, rfl⟩ := Credential.ofContents_eq_ok_iff.mp hmade
    cases hsameKey
    cases hleaf.symm.trans hsameLeaf
    have hothers : ∀ other ∈ before, ¬ (PrivateKey.rsa key).Fits other := by
      simpa using hbefore
    exact ⟨secret, passphrase, bags, key, before, certificate, after, hsecret, hopening,
      of_decide_eq_true hfits, hothers, hread, rfl, hcertificate⟩
  · intro passphrase bags key certificates other otherPassword otherSecret otherPassphrase otherBags
      others hotherSecret hopening hother hsame
    rw [Credential.decode_of_opening hsecret hopening, Credential.decode_of_opening hotherSecret hother,
      Credential.ofContents_congr source hsame]
  · intro passphrase bags other otherPassword otherSecret wider hotherSecret hbags hwider h
    exact Credential.decode_eq_of_widened hsecret hotherSecret hbags hwider h source
  · intro passphrase bags key certificates hopening hnone
    rw [Credential.decode_of_opening hsecret hopening, Credential.ofContents_of_not_fits source hnone]
    rfl

section Chain

/-- A bag with a certificate. -/
def certificateBag (certificate : Certificate) : Element :=
  ofKind Identifier.certificateBag
    (ofKind Identifier.x509Certificate ⟨octetStringTag, certificate.bytes⟩)

/-- The bag with the key that signs. -/
def signingKeyBag : Element :=
  ofKind Identifier.keyBag
    (ofSequence [ofNatural 0, namedAlgorithm Identifier.rsa, ⟨octetStringTag, signingKey.bytes⟩])

/-- A bundle of one safe with some bags. -/
def bundleOf (bags : List Element) : Bytes :=
  let octets (bytes : Bytes) : Element := ⟨octetStringTag, bytes⟩
  let safe := ofKind Identifier.data (octets (ofSequence bags).bytes)
  (ofSequence [ofNatural 3, ofKind Identifier.data (octets (ofSequence [safe]).bytes)]).bytes

/-- A certificate of another key. -/
def foreignCertificate : Certificate := rsaCertificate ⟨15, 3⟩

/-- The bags with the key and its certificate. -/
def pairBags : List Element := [signingKeyBag, certificateBag signingCertificate]

/-- The same bags with certificates of another key around them, and with a double at the end. -/
def chainBags : List Element :=
  [certificateBag foreignCertificate, signingKeyBag, certificateBag foreignCertificate,
    certificateBag signingCertificate, certificateBag foreignCertificate,
    certificateBag signingCertificate]

/-- The bags with the key and a certificate of another one. -/
def strayBags : List Element := [signingKeyBag, certificateBag foreignCertificate]

/-- The certificate of the key can be read. -/
theorem certificatesOf?_signingCertificate :
    Bundle.certificatesOf? (certificateBag signingCertificate) = some [signingCertificate] := by
  decide +kernel

/-- The certificate of the other key can be read. -/
theorem certificatesOf?_foreignCertificate :
    Bundle.certificatesOf? (certificateBag foreignCertificate) = some [foreignCertificate] := by
  decide +kernel

/-- The certificate of the other key does not fit. -/
theorem not_fits_foreignCertificate : ¬ (PrivateKey.rsa signingKey).Fits foreignCertificate := by
  decide +kernel

/-- What is found in the bundle with the key and its certificate. -/
theorem opening_signingBundle :
    Bundle.Opening signingBundle none .none pairBags (some (.rsa signingKey)) [signingCertificate] := by
  have hbags : Bundle.bagsUnder? signingBundle none = some (.none, pairBags) := by decide +kernel
  obtain ⟨passphrase, bags, hopening⟩ := Bundle.open?_eq_some_iff.mp open?_signingBundle
  cases hopening.bags_eq.symm.trans hbags
  exact hopening

/-- What is found in the bundle with the key and a certificate of another one. -/
theorem opening_strayBags :
    Bundle.Opening (bundleOf strayBags) none .none strayBags (some (.rsa signingKey))
      [foreignCertificate] := by
  have hkeyBag : Bundle.hasKey signingKeyBag = true := by decide +kernel
  refine ⟨by decide +kernel, ?_, ?_⟩
  · rw [← opening_signingBundle.key_eq, strayBags, pairBags,
      Bundle.firstKey?_cons_of_hasKey _ hkeyBag, Bundle.firstKey?_cons_of_hasKey _ hkeyBag]
  · rw [strayBags, Bundle.certificatesIn?_cons, Bundle.certificatesIn?_cons,
      Bundle.certificatesOf?_of_hasKey hkeyBag, certificatesOf?_foreignCertificate]
    rfl

/-- The chain has no bearing on the key. -/
theorem widened_chainBags :
    Bundle.Widened (some (.rsa signingKey)) false pairBags chainBags := by
  have hfree : false = true ∨ ∀ k, some (PrivateKey.rsa signingKey) = some k →
      ¬ k.Fits foreignCertificate := by
    refine .inr fun k hk => ?_
    cases hk
    exact not_fits_foreignCertificate
  refine .insert certificatesOf?_foreignCertificate hfree (.keep _ ?_)
  refine .insert certificatesOf?_foreignCertificate hfree ?_
  refine .pass rfl certificatesOf?_signingCertificate rfl ?_
  refine .insert certificatesOf?_foreignCertificate (.inl rfl) ?_
  exact .insert certificatesOf?_signingCertificate (.inl rfl) .nil

/-- A chain around the certificate of the key, and doubles of it, change nothing; without the certificate
of the key, another one does not take its place. -/
theorem chain_gives_same_credential :
    (∃ secret passphrase bags key before certificate after,
      Credential.secretOf none = .ok secret ∧
        Bundle.Opening signingBundle secret passphrase bags (some (.rsa key))
          (before ++ certificate :: after) ∧
        certificate.publicKey = some (.rsa ⟨key.modulus, key.publicExponent⟩) ∧
        signingCredential.certificate = certificate.bytes) ∧
      Bundle.Widened (some (.rsa signingKey)) false pairBags chainBags ∧
      Credential.decode Bundle.open? (bundleOf chainBags) none "app.pfx" = .ok signingCredential ∧
      Credential.decode Bundle.open? (bundleOf strayBags) none "app.pfx" =
        .error (.decode (.noCertificate "app.pfx")) := by
  have hchain : Bundle.bagsUnder? (bundleOf chainBags) none = some (.none, chainBags) := by
    decide +kernel
  have hopening := opening_signingBundle
  obtain ⟨hcredential, hopened⟩ := first_fitting_certificate_decides signingBundle none "app.pfx"
  obtain ⟨-, hwidened, -⟩ := hopened rfl
  obtain ⟨-, hstray⟩ := first_fitting_certificate_decides (bundleOf strayBags) none "app.pfx"
  obtain ⟨-, -, hnone⟩ := hstray rfl
  refine ⟨?_, widened_chainBags, ?_, ?_⟩
  · obtain ⟨secret, passphrase, bags, key, before, certificate, after, hsecret, hfound, hfits, -, -,
      hbytes, -⟩ := hcredential _ (decode_signingBundle "app.pfx")
    exact ⟨secret, passphrase, bags, key, before, certificate, after, hsecret, hfound, hfits, hbytes⟩
  · have hwider : Bundle.Widened (Bundle.firstKey? .none pairBags).join false pairBags chainBags := by
      rw [hopening.key_eq]
      exact widened_chainBags
    rw [hwidened rfl hopening.bags_eq hchain hwider, decode_signingBundle]
  · exact hnone opening_strayBags (by simpa using not_fits_foreignCertificate)

end Chain

end CloudAuth
