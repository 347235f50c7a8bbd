import CloudAuth.Credential
import CloudAuth.Proofs.KeyReload

/-!
# What comes out of a bundle

Whatever a bundle holds and however its bags are nested, its key was read from the general form and its
certificates were read from their bytes. `IsRead` is kept by each bag and each safe, and so holds of the
contents of every bundle that can be opened. A credential out of a bundle can therefore be read again.
-/

namespace CloudAuth

/-- What one step keeps is kept by all steps that succeed. -/
theorem foldlM_preserves {α β : Type} {step : β → α → Option β} (P : β → Prop)
    (hstep : ∀ b a c, P b → step b a = some c → P c) {as : List α} {b c : β} (hb : P b)
    (hfold : as.foldlM step b = some c) : P c := by
  induction as generalizing b with
  | nil =>
    cases hfold
    exact hb
  | cons a rest ih =>
    rw [List.foldlM_cons] at hfold
    obtain ⟨next, hnext, hrest⟩ := Option.bind_eq_some_iff.mp hfold
    exact ih (hstep b a next hb hnext) hrest

namespace Certificate

/-- The bytes of a certificate are those that it was read from. -/
theorem bytes_of_ofBytes? {bytes : Bytes} {certificate : Certificate}
    (hread : ofBytes? bytes = some certificate) : certificate.bytes = bytes := by
  unfold ofBytes? at hread
  obtain ⟨e, -, hread⟩ := Option.bind_eq_some_iff.mp hread
  obtain ⟨key, -, hread⟩ := Option.bind_eq_some_iff.mp hread
  split at hread
  · contradiction
  · cases hread
    rfl

/-- A certificate that was read is read again from its bytes. -/
theorem ofBytes?_bytes {bytes : Bytes} {certificate : Certificate}
    (hread : ofBytes? bytes = some certificate) : ofBytes? certificate.bytes = some certificate := by
  rw [bytes_of_ofBytes? hread]
  exact hread

end Certificate

/-- The key was read from the general form, and the certificates from their bytes. -/
structure BundleContents.IsRead (contents : BundleContents) : Prop where
  /-- The key was read from the general form. -/
  key : ∀ key, contents.key = some key → ∃ e, PrivateKey.ofInfo? .basic e = some key
  /-- The certificates were read from their bytes. -/
  certificates : ∀ c ∈ contents.certificates, Certificate.ofBytes? c.bytes = some c

/-- Nothing was read yet. -/
theorem BundleContents.isRead_empty : IsRead ⟨none, []⟩ := ⟨by simp, by simp⟩

namespace Bundle

/-- One key more was read, if the key that is added was. -/
theorem isRead_addKey? {contents after : BundleContents} {key : Option PrivateKey}
    (hcontents : contents.IsRead)
    (hkey : ∀ k, key = some k → ∃ e, PrivateKey.ofInfo? .basic e = some k)
    (hadd : addKey? contents key = some after) : after.IsRead := by
  unfold addKey? at hadd
  split at hadd
  · cases hadd
    exact hcontents
  · obtain ⟨k, hk, rfl⟩ := Option.map_eq_some_iff.mp hadd
    refine ⟨fun other hother => ?_, hcontents.certificates⟩
    cases hother
    exact hkey k hk

/-- One certificate more was read. -/
theorem isRead_addCertificate? {contents after : BundleContents} {value : Asn1.Element}
    (hcontents : contents.IsRead) (hadd : addCertificate? contents value = some after) :
    after.IsRead := by
  unfold addCertificate? at hadd
  obtain ⟨⟨kind, inner⟩, -, hadd⟩ := Option.bind_eq_some_iff.mp hadd
  dsimp only at hadd
  split at hadd
  · obtain ⟨bytes, -, hadd⟩ := Option.bind_eq_some_iff.mp hadd
    obtain ⟨certificate, hread, hadd⟩ := Option.bind_eq_some_iff.mp hadd
    cases hadd
    refine ⟨hcontents.key, fun c hc => ?_⟩
    rcases List.mem_append.mp hc with hc | hc
    · exact hcontents.certificates c hc
    · rw [List.mem_singleton.mp hc]
      exact Certificate.ofBytes?_bytes hread
  · cases hadd
    exact hcontents

/-- One bag more was read, however deep its bags are nested. -/
theorem isRead_addBag? (passphrase : Passphrase) {depth : Nat} {contents after : BundleContents}
    {bag : Asn1.Element} (hcontents : contents.IsRead)
    (hadd : addBag? passphrase depth contents bag = some after) : after.IsRead := by
  induction depth generalizing contents after bag with
  | zero => contradiction
  | succ depth ih =>
    unfold addBag? at hadd
    obtain ⟨⟨kind, value⟩, -, hadd⟩ := Option.bind_eq_some_iff.mp hadd
    dsimp only at hadd
    split at hadd
    · exact isRead_addKey? hcontents (fun k hk => ⟨value, hk⟩) hadd
    · split at hadd
      · refine isRead_addKey? hcontents (fun k hk => ?_) hadd
        obtain ⟨e, -, hread⟩ := Option.bind_eq_some_iff.mp hk
        exact ⟨e, hread⟩
      · split at hadd
        · exact isRead_addCertificate? hcontents hadd
        · split at hadd
          · obtain ⟨bags, -, hfold⟩ := Option.bind_eq_some_iff.mp hadd
            exact foldlM_preserves BundleContents.IsRead (fun _ _ _ h => ih h) hcontents hfold
          · cases hadd
            exact hcontents

/-- One safe more was read. -/
theorem isRead_addSafe? (passphrase : Passphrase) {contents after : BundleContents}
    {safe : Asn1.Element} (hcontents : contents.IsRead)
    (hadd : addSafe? passphrase contents safe = some after) : after.IsRead := by
  have hbags (bytes : Bytes) (hread : ((Asn1.Element.leading? .basic bytes).bind fun e =>
      (e.sequence? .basic).bind fun bags => bags.foldlM (addBag? passphrase maxBagDepth) contents) =
        some after) : after.IsRead := by
    obtain ⟨e, -, hread⟩ := Option.bind_eq_some_iff.mp hread
    obtain ⟨bags, -, hfold⟩ := Option.bind_eq_some_iff.mp hread
    exact foldlM_preserves BundleContents.IsRead (fun _ _ _ => isRead_addBag? passphrase) hcontents
      hfold
  unfold addSafe? at hadd
  obtain ⟨parts, -, hadd⟩ := Option.bind_eq_some_iff.mp hadd
  split at hadd
  · obtain ⟨kind, -, hadd⟩ := Option.bind_eq_some_iff.mp hadd
    split at hadd
    · contradiction
    · split at hadd
      · obtain ⟨first, -, hadd⟩ := Option.bind_eq_some_iff.mp hadd
        obtain ⟨value, -, hadd⟩ := Option.bind_eq_some_iff.mp hadd
        dsimp only at hadd
        split at hadd
        · obtain ⟨bytes, -, hadd⟩ := Option.bind_eq_some_iff.mp hadd
          exact hbags bytes hadd
        · obtain ⟨bytes, -, hadd⟩ := Option.bind_eq_some_iff.mp hadd
          exact hbags bytes hadd
      · cases hadd
        exact hcontents
  · contradiction

/-- The contents of every bundle that can be opened were read. -/
theorem isRead_of_open? {bytes : Bytes} {secret : Option Bytes} {contents : BundleContents}
    (hopen : open? bytes secret = some contents) : contents.IsRead := by
  unfold open? contents? at hopen
  obtain ⟨bundle, -, hopen⟩ := Option.bind_eq_some_iff.mp hopen
  obtain ⟨passphrase, -, hopen⟩ := Option.bind_eq_some_iff.mp hopen
  obtain ⟨e, -, hopen⟩ := Option.bind_eq_some_iff.mp hopen
  obtain ⟨safes, -, hopen⟩ := Option.bind_eq_some_iff.mp hopen
  exact foldlM_preserves BundleContents.IsRead (fun _ _ _ => isRead_addSafe? passphrase)
    BundleContents.isRead_empty hopen

end Bundle

namespace Credential

/-- The certificate that belongs to a public key carries it. -/
theorem publicKey_of_leaf? {key : PublicKey} {certificates : List Certificate} {certificate : Certificate}
    (hleaf : leaf? key certificates = some certificate) : certificate.publicKey = some key := by
  have hcarries := List.find?_some hleaf
  exact beq_iff_eq.mp hcarries

/-- A credential comes out of contents exactly with an RSA key, and a certificate of that key: the first
one there. -/
theorem ofContents_eq_ok_iff {source : Text} {contents : BundleContents} {credential : Credential} :
    ofContents source contents = .ok credential ↔
      ∃ key certificate, contents.key = some (.rsa key) ∧
        leaf? (.rsa key.publicKey) contents.certificates = some certificate ∧
        credential = ⟨key.bytes, certificate.bytes⟩ := by
  constructor
  · intro hmade
    unfold ofContents at hmade
    split at hmade
    · contradiction
    · next key hkey =>
      split at hmade
      · contradiction
      · next certificate hleaf =>
        split at hmade
        · next key =>
          cases hmade
          exact ⟨key, certificate, hkey, hleaf, rfl⟩
        · contradiction
  · rintro ⟨key, certificate, hkey, hleaf, rfl⟩
    unfold ofContents
    rw [hkey]
    dsimp only [PrivateKey.publicKey]
    rw [hleaf]

/-- With a password that can be encoded, a bundle that does not open is reported. -/
theorem decode_of_unopened {openBundle : BundleReader} {data : Bytes} {password : Option Text}
    {secret : Option Bytes} (hsecret : secretOf password = .ok secret)
    (hopen : openBundle data secret = none) (source : Text) :
    decode openBundle data password source = .error (.decode (.corrupt source)) := by
  simp only [decode, hsecret, hopen]

/-- With a password that can be encoded, what comes out of a bundle that opens comes out of its contents. -/
theorem decode_of_opened {openBundle : BundleReader} {data : Bytes} {password : Option Text}
    {secret : Option Bytes} {contents : BundleContents} (hsecret : secretOf password = .ok secret)
    (hopen : openBundle data secret = some contents) (source : Text) :
    decode openBundle data password source = (ofContents source contents).mapError Error.decode := by
  simp only [decode, hsecret, hopen]

/-- A credential is decoded exactly with a password that can be encoded, from a bundle that opens with it,
out of its contents. -/
theorem decode_eq_ok_iff {openBundle : BundleReader} {data : Bytes} {password : Option Text}
    {source : Text} {credential : Credential} :
    decode openBundle data password source = .ok credential ↔
      ∃ secret contents, secretOf password = .ok secret ∧ openBundle data secret = some contents ∧
        ofContents source contents = .ok credential := by
  constructor
  · intro hdecode
    cases hsecret : secretOf password with
    | error e =>
      rw [decode, hsecret] at hdecode
      contradiction
    | ok secret =>
      cases hopen : openBundle data secret with
      | none =>
        rw [decode_of_unopened hsecret hopen] at hdecode
        contradiction
      | some contents =>
        rw [decode_of_opened hsecret hopen] at hdecode
        refine ⟨secret, contents, rfl, hopen, ?_⟩
        cases hmade : ofContents source contents with
        | error e =>
          rw [hmade] at hdecode
          contradiction
        | ok made =>
          rw [hmade] at hdecode
          cases hdecode
          rfl
  · rintro ⟨secret, contents, hsecret, hopen, hmade⟩
    rw [decode_of_opened hsecret hopen, hmade]
    rfl

/-- A credential that is decoded has a key and a certificate, whatever the bundle is opened by. -/
theorem ne_nil_of_decode {openBundle : BundleReader} {data : Bytes} {password : Option Text} {source : Text}
    {credential : Credential} (hdecode : decode openBundle data password source = .ok credential) :
    credential.privateKey ≠ [] ∧ credential.certificate ≠ [] := by
  obtain ⟨secret, contents, -, -, hmade⟩ := decode_eq_ok_iff.mp hdecode
  obtain ⟨key, certificate, -, -, rfl⟩ := ofContents_eq_ok_iff.mp hmade
  exact ⟨key.bytes_ne_nil, certificate.bytes_ne_nil⟩

/-- A credential that is decoded comes out of a bundle that can be opened, and is read again: its key as
the RSA key of the bundle, and its certificate as the first one of that key there. -/
theorem reads_of_decode {data : Bytes} {password : Option Text} {source : Text}
    {credential : Credential} (hdecode : decode Bundle.open? data password source = .ok credential) :
    ∃ secret contents key certificate, secretOf password = .ok secret ∧
      Bundle.open? data secret = some contents ∧ contents.key = some (.rsa key) ∧
      leaf? (.rsa key.publicKey) contents.certificates = some certificate ∧
      PrivateKey.ofBytes credential.privateKey = .ok (.rsa key) ∧
      Certificate.ofBytes? credential.certificate = some certificate := by
  obtain ⟨secret, contents, hsecret, hopen, hmade⟩ := decode_eq_ok_iff.mp hdecode
  have hcontents := Bundle.isRead_of_open? hopen
  obtain ⟨key, certificate, hkey, hleaf, rfl⟩ := ofContents_eq_ok_iff.mp hmade
  obtain ⟨e, hread⟩ := hcontents.key _ hkey
  exact ⟨secret, contents, key, certificate, hsecret, hopen, hkey, hleaf,
    PrivateKey.ofBytes_of_ofInfo? hread,
    hcontents.certificates certificate (List.mem_of_find?_eq_some hleaf)⟩

/-- A credential that is loaded was decoded from the bytes of the file at the path. -/
theorem decode_of_load {platform : Platform} {given : GivenPath} {password : Option Text}
    {credential : Credential} (hload : (load platform given password).1 = .ok credential) :
    ∃ name data, given.normal.fileName = .ok name ∧ platform.readFile name = .ok data ∧
      decode platform.openBundle data password given.normal.text = .ok credential := by
  unfold load at hload
  dsimp only at hload
  split at hload
  · contradiction
  · next name hname =>
    split at hload
    · contradiction
    · next data hread => exact ⟨name, data, hname, hread, hload⟩

/-- A credential that is loaded is read again. -/
theorem reads_of_load {files : FileSystem} {given : GivenPath} {password : Option Text}
    {credential : Credential} (hload : (load files.platform given password).1 = .ok credential) :
    (∃ key, PrivateKey.ofBytes credential.privateKey = .ok (.rsa key)) ∧
      ∃ certificate, Certificate.ofBytes? credential.certificate = some certificate := by
  obtain ⟨name, data, -, -, hdecode⟩ := decode_of_load hload
  obtain ⟨secret, contents, key, certificate, -, -, -, -, hkey, hcertificate⟩ := reads_of_decode hdecode
  exact ⟨⟨key, hkey⟩, certificate, hcertificate⟩

end Credential

end CloudAuth
