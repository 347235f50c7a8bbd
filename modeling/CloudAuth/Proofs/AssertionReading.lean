import CloudAuth.Proofs.Base64Reading
import CloudAuth.Proofs.BundleSigning
import CloudAuth.Proofs.JsonReading

/-!
# Assertions are read back

Whoever gets an assertion can take it apart: between the points stand three parts in the alphabet of
addresses, and the first two hold the header and the claims that the assertion was made of. This is the
round trip through the escapes of JSON, its numerals and Base64, put together from the modules on each.

A numeral is read if it is not too long, so the time of an assertion is bounded by `IsReadableTime`. The
times of the binary format, in which clocks tell the time, are far below the bound.
-/

namespace CloudAuth

/-- ASCII characters are decoded from their bytes. -/
theorem Unicode.decodeUtf8_ofChars {cs : List Char} (hcs : Json.IsAscii cs) :
    decodeUtf8 (Bytes.ofChars cs) = some cs := by
  induction cs with
  | nil => rfl
  | cons c cs ih =>
    have hc : c.toNat < 0x80 := hcs c List.mem_cons_self
    have hbyte : (UInt8.ofNat c.toNat).toNat = c.toNat := by
      rw [UInt8.toNat_ofNat']
      omega
    have hsmall : UInt8.ofNat c.toNat < 0x80 := by
      rw [UInt8.lt_iff_toNat_lt, hbyte]
      exact hc
    have hrest : decodeUtf8 (Bytes.ofChars cs) = some cs :=
      ih fun other hother => hcs other (List.mem_cons_of_mem c hother)
    change decodeUtf8 (UInt8.ofNat c.toNat :: Bytes.ofChars cs) = _
    rw [decodeUtf8.eq_def]
    dsimp only
    rw [if_pos hsmall, hrest, hbyte, Char.ofNat_toNat]
    rfl

namespace Assertion

/-- A text without points is one part. -/
theorem parts_of_not_mem {part : List Char} (hpart : '.' ∉ part) : parts part = [part] := by
  induction part with
  | nil => rfl
  | cons c cs ih =>
    rw [List.mem_cons, not_or] at hpart
    rw [parts, ih hpart.2]
    exact if_neg (Ne.symm hpart.1)

/-- A point ends a part. -/
theorem parts_append_cons {part : List Char} (hpart : '.' ∉ part) (rest : List Char) :
    parts (part ++ '.' :: rest) = part :: parts rest := by
  have hne : ∃ first others, parts rest = first :: others := by
    cases rest with
    | nil => exact ⟨_, _, rfl⟩
    | cons c cs =>
      rw [parts]
      split
      · exact ⟨_, _, rfl⟩
      · split <;> exact ⟨_, _, rfl⟩
  obtain ⟨first, others, hrest⟩ := hne
  induction part with
  | nil =>
    rw [List.nil_append, parts, hrest]
    rfl
  | cons c cs ih =>
    rw [List.mem_cons, not_or] at hpart
    rw [List.cons_append, parts, ih hpart.2]
    exact if_neg (Ne.symm hpart.1)

/-- A part has no points. -/
theorem point_not_mem_segment (bytes : Bytes) : '.' ∉ segment bytes := by
  intro hpoint
  have hcontains := Base64.contains_of_mem_encodeBare .urlSafe hpoint
  revert hcontains
  decide

/-- A JSON value is read from the part that holds it. -/
theorem readSegment?_jsonSegment {v : Json} (hv : v.IsPortable) :
    readSegment? (jsonSegment v) = some v := by
  unfold readSegment? jsonSegment segment
  rw [Base64.decodeBare?_encodeBare]
  dsimp only [bind, Option.bind]
  rw [Unicode.decodeUtf8_ofChars hv.isAscii_chars]
  dsimp only
  rw [Json.read_chars hv]
  rfl

end Assertion

/-- The numerals of a time and of the end of an assertion made at that time can be read. -/
def IsReadableTime (now : Rat) : Prop :=
  (wholeSeconds now).natAbs + assertionLifetime.natAbs < 10 ^ Decimal.maxDigits

/-- Every time in the range of the binary format can be read. -/
theorem isReadableTime_of_abs_lt {now : Rat} (hnow : |now| < 2 ^ 1024) : IsReadableTime now := by
  have hnum : now.num.natAbs < 2 ^ 1024 * now.den := by
    have habs : |now| = (now.num.natAbs : Rat) / now.den := by
      conv_lhs => rw [← Rat.num_div_den now]
      rw [abs_div, Nat.abs_cast, ← Int.cast_abs, Int.abs_eq_natAbs]
      rfl
    rw [habs, div_lt_iff₀ (by exact_mod_cast now.pos)] at hnow
    exact_mod_cast hnow
  have hwhole : (wholeSeconds now).natAbs < 2 ^ 1024 := by
    rw [wholeSeconds, Int.natAbs_tdiv, Int.natAbs_natCast]
    exact Nat.div_lt_of_lt_mul (by rwa [Nat.mul_comm])
  have hrange {k e : Nat} (hk : 12 ≤ k) (he : k + 1 ≤ e) :
      2 ^ k + assertionLifetime.natAbs ≤ 10 ^ e :=
    calc 2 ^ k + assertionLifetime.natAbs
      _ ≤ 2 ^ k + 2 ^ k :=
        have hlifetime : assertionLifetime.natAbs ≤ 2 ^ 12 := by decide
        Nat.add_le_add_left (hlifetime.trans (Nat.pow_le_pow_right (by decide) hk)) _
      _ = 2 ^ (k + 1) := by rw [← Nat.two_mul, ← Nat.pow_succ']
      _ ≤ 10 ^ (k + 1) := Nat.pow_le_pow_left (by decide) _
      _ ≤ 10 ^ e := Nat.pow_le_pow_right (by decide) he
  exact Nat.lt_of_lt_of_le (Nat.add_lt_add_right hwhole _) (hrange (by decide) (by decide))

/-- The header of an assertion by the names of its members. -/
theorem assertionHeader_eq (thumbprint : List Char) :
    assertionHeader thumbprint = Json.object [("alg", .ofString "RS256"), ("typ", .ofString "JWT"),
      ("x5t", .ofString (String.ofList thumbprint))] := by
  simp only [assertionHeader, Json.object, List.map_cons, List.map_nil, Json.ofString, Text.ofString,
    String.toList_ofList]

/-- The header of an assertion is portable. -/
theorem isPortable_assertionHeader (thumbprint : List Char) :
    (assertionHeader thumbprint).IsPortable := by
  rw [assertionHeader_eq]
  refine Json.isPortable_object ?_ (show ["alg", "typ", "x5t"].Nodup by decide)
  simp only [List.forall_mem_cons, List.not_mem_nil, false_imp_iff, implies_true, and_true,
    Json.isPortable_ofString]

/-- The claims of an assertion are portable if its address and its client consist of characters proper and
the numerals are not too long. -/
theorem Claims.isPortable_toJson {claims : Claims} (haudience : claims.audience.IsWhole)
    (hclient : claims.client.IsWhole)
    (hnumerals : claims.notBefore.natAbs + assertionLifetime.natAbs < 10 ^ Decimal.maxDigits) :
    claims.toJson.IsPortable := by
  have hint {n : Int} (hn : n.natAbs < 10 ^ Decimal.maxDigits) : (Json.int n).IsPortable :=
    .int ((Nat.length_toDigits_le_iff (by decide) (by decide)).mpr hn)
  have hnotBefore : claims.notBefore.natAbs < 10 ^ Decimal.maxDigits :=
    Nat.lt_of_le_of_lt (Nat.le_add_right _ _) hnumerals
  have hend : (claims.notBefore + assertionLifetime).natAbs < 10 ^ Decimal.maxDigits :=
    Nat.lt_of_le_of_lt (Int.natAbs_add_le _ _) hnumerals
  change (Json.object [("aud", .str claims.audience), ("iss", .str claims.client),
    ("sub", .str claims.client), ("jti", .ofString claims.identifier),
    ("nbf", .int claims.notBefore), ("exp", .int (claims.notBefore + assertionLifetime))]).IsPortable
  refine Json.isPortable_object ?_ (show ["aud", "iss", "sub", "jti", "nbf", "exp"].Nodup by decide)
  simp only [List.forall_mem_cons, List.not_mem_nil, false_imp_iff, implies_true, and_true,
    Json.isPortable_ofString, Json.IsPortable.str haudience, Json.IsPortable.str hclient,
    hint hnotBefore, hint hend]

namespace Assertion

/-- A text is read as an assertion with these members: three parts in the alphabet of addresses, of which
the first two hold the header and the claims. -/
def IsReadAs (text : String) (header claims : List (String × Json)) : Prop :=
  ∃ first second third, parts text.toList = [first, second, third] ∧
    (∀ part ∈ [first, second, third], ∀ c ∈ part, c.isAlphanum ∨ c = '-' ∨ c = '_') ∧
    readSegment? first = some (.object header) ∧ readSegment? second = some (.object claims)

/-- A signed assertion has three parts: the header, the claims and the signature. -/
theorem parts_signed (thumbprint : List Char) (claims : Claims) (signature : Bytes) :
    parts (signedChars thumbprint claims ++ '.' :: segment signature) =
      [jsonSegment (assertionHeader thumbprint), jsonSegment claims.toJson, segment signature] := by
  have hheader :=
    parts_append_cons (point_not_mem_segment (Bytes.ofChars (assertionHeader thumbprint).chars))
  have hclaims := parts_append_cons (point_not_mem_segment (Bytes.ofChars claims.toJson.chars))
  rw [signedChars, List.append_assoc, List.cons_append, jsonSegment, hheader, jsonSegment, hclaims,
    parts_of_not_mem (point_not_mem_segment signature)]

/-- An assertion is read as the header and the claims that were signed. -/
theorem isReadAs_of_sign? {key : RsaPrivateKey} {thumbprint chars : List Char} {claims : Claims}
    (hsign : sign? key thumbprint claims = some chars) (haudience : claims.audience.IsWhole)
    (hclient : claims.client.IsWhole)
    (hnumerals : claims.notBefore.natAbs + assertionLifetime.natAbs < 10 ^ Decimal.maxDigits) :
    IsReadAs (String.ofList chars)
      [("alg", .ofString "RS256"), ("typ", .ofString "JWT"),
        ("x5t", .ofString (String.ofList thumbprint))]
      [("aud", .str claims.audience), ("iss", .str claims.client),
        ("sub", .str claims.client), ("jti", .ofString claims.identifier),
        ("nbf", .int claims.notBefore), ("exp", .int (claims.notBefore + assertionLifetime))] := by
  obtain ⟨signature, -, rfl⟩ := Option.map_eq_some_iff.mp hsign
  have hsymbols (bytes : Bytes) : ∀ c ∈ segment bytes, c.isAlphanum ∨ c = '-' ∨ c = '_' :=
    fun c hc => (Base64.Alphabet.contains_urlSafe_iff c).mp (Base64.contains_of_mem_encodeBare .urlSafe hc)
  refine ⟨_, _, _,
    (congrArg parts String.toList_ofList).trans (parts_signed thumbprint claims signature), ?_, ?_, ?_⟩
  · simp only [List.forall_mem_cons, List.not_mem_nil, false_imp_iff, implies_true, and_true]
    exact ⟨hsymbols _, hsymbols _, hsymbols _⟩
  · rw [readSegment?_jsonSegment (isPortable_assertionHeader thumbprint), assertionHeader_eq]
  · exact readSegment?_jsonSegment (Claims.isPortable_toJson haudience hclient hnumerals)

end Assertion

namespace ClientSource

/-- A source with a key and a certificate that can be read makes its form exactly with an RSA key that
has room for a signature. -/
theorem form_isOk_iff_of_loads {source : ClientSource} (htype : source.authType = .assertion)
    {key : PrivateKey} {thumbprint : List Char} (hkey : loadKey source.request.privateKey = .ok key)
    (hthumbprint : loadThumbprint source.request.certificate = .ok thumbprint) (supply : Supply) :
    (∃ form, (source.form supply).1 = .ok form) ↔
      ∃ rsa, key = .rsa rsa ∧ RsaSignature.minModulusSize ≤ rsa.publicKey.size := by
  constructor
  · rintro ⟨form, hform⟩
    obtain ⟨rsa, named, chars, hrsa, -, hsign, -⟩ := form_eq_of_assertion htype hform
    rw [hkey] at hrsa
    exact ⟨rsa, Except.ok.inj hrsa,
      (Assertion.sign?_isSome_iff rsa _ _).mp (Option.isSome_of_eq_some hsign)⟩
  · rintro ⟨rsa, rfl, hsize⟩
    rw [form_isOk_iff_of_assertion htype, assertion_isOk_iff hkey hthumbprint]
    exact hsize

end ClientSource

/-- A source whose key and certificate can be read makes its form exactly with an RSA key that has room
for a signature. The assertion in the form names the certificate and states the address, the client, a
fresh identifier and the time, where address and client consist of characters proper; and that form is what
is sent to the address. -/
theorem assertion_read_back (source : ClientSource) (supply : Supply) {key : PrivateKey}
    {thumbprint : List Char} (htype : source.authType = .assertion)
    (hkey : ClientSource.loadKey source.request.privateKey = .ok key)
    (hthumbprint : ClientSource.loadThumbprint source.request.certificate = .ok thumbprint)
    (hurl : source.request.tokenUrl.IsWhole) (hclient : source.request.clientId.IsWhole)
    (hnow : IsReadableTime supply.now) :
    ((∃ form, (source.form supply).1 = .ok form) ↔
      ∃ rsa, key = .rsa rsa ∧ RsaSignature.minModulusSize ≤ rsa.publicKey.size) ∧
    (∀ form, (source.form supply).1 = .ok form →
      form.lookup "client_id" = some (some source.request.clientId) ∧
      ∃ text : String, form.lookup "client_assertion" = some (some (Text.ofString text)) ∧
        Assertion.IsReadAs text
          [("alg", .ofString "RS256"), ("typ", .ofString "JWT"),
            ("x5t", .ofString (String.ofList thumbprint))]
          [("aud", .str source.request.tokenUrl), ("iss", .str source.request.clientId),
            ("sub", .str source.request.clientId), ("jti", .ofString supply.identifier),
            ("nbf", .int (wholeSeconds supply.now)),
            ("exp", .int (wholeSeconds supply.now + 3600))]) ∧
    ∀ cache, ∀ post ∈ (source.token cache supply).2.2.2.posts,
      post.url = source.request.tokenUrl ∧ (source.form supply).1 = .ok post.form := by
  refine ⟨ClientSource.form_isOk_iff_of_loads htype hkey hthumbprint supply, fun form hform => ?_,
    fun cache post hpost => ?_⟩
  · obtain ⟨rsa, named, chars, -, hnamed, hsign, rfl⟩ := ClientSource.form_eq_of_assertion htype hform
    cases Except.ok.inj (hthumbprint.symm.trans hnamed)
    exact ⟨rfl, _, ClientSource.lookup_assertion _ _, Assertion.isReadAs_of_sign? hsign hurl hclient hnow⟩
  · obtain ⟨form, hform, rfl⟩ := source.form_of_mem_posts hpost
    exact ⟨rfl, hform⟩

/-- A client whose name takes escapes of every kind in JSON. -/
def escapedRegistration : Registration := { worldwideRegistration with clientId := "\"\\\n\x01é𝒳" }

/-- The source of that client. -/
def escapedSource : ClientSource := escapedRegistration.source (.credential signingCredential)

/-- A supply with a time between two seconds before the epoch. -/
def fractionalSupply : Supply :=
  { supplyOf (.failure "Timeout" "timed out") with now := -(3 : Rat) / 2 }

/-- The assertion of a client is read as what it states, although the name of the client is escaped in it
and its time is rounded. -/
theorem assertion_of_escaped_client :
    ClientSource.loadKey escapedSource.request.privateKey = .ok (.rsa signingKey) ∧
      ClientSource.loadThumbprint escapedSource.request.certificate =
        .ok (Certificate.thumbprintText signingCertificate.bytes) ∧
      escapedSource.request.tokenUrl.IsWhole ∧ escapedSource.request.clientId.IsWhole ∧
      IsReadableTime fractionalSupply.now ∧
      ∃ (form : Form) (text : String), (escapedSource.form fractionalSupply).1 = .ok form ∧
        form.lookup "client_assertion" = some (some (Text.ofString text)) ∧
        Assertion.IsReadAs text
          [("alg", .ofString "RS256"), ("typ", .ofString "JWT"),
            ("x5t", .ofString (String.ofList (Certificate.thumbprintText signingCertificate.bytes)))]
          [("aud", .ofString "https://login.microsoftonline.com/tenant/oauth2/v2.0/token"),
            ("iss", .ofString "\"\\\n\x01é𝒳"), ("sub", .ofString "\"\\\n\x01é𝒳"),
            ("jti", .ofString "identifier"), ("nbf", .int (-1)), ("exp", .int 3599)] := by
  have hkey : ClientSource.loadKey escapedSource.request.privateKey = .ok (.rsa signingKey) :=
    ClientSource.loadKey_of_ofBytes reads_signingCredential.1
  have hthumbprint := ClientSource.loadThumbprint_of_ofBytes? reads_signingCredential.2
  have hnow : IsReadableTime fractionalSupply.now :=
    isReadableTime_of_abs_lt <| calc |-(3 : Rat) / 2|
      _ = 3 / 2 := by norm_num
      _ < 2 ^ 1 := by norm_num
      _ ≤ 2 ^ 1024 := pow_le_pow_right₀ (by norm_num) (by norm_num)
  have hurl : escapedSource.request.tokenUrl =
      "https://login.microsoftonline.com/tenant/oauth2/v2.0/token" := rfl
  have hwhole : escapedSource.request.tokenUrl.IsWhole := hurl ▸ Text.isWhole_ofString _
  have hclient : escapedSource.request.clientId.IsWhole := Text.isWhole_ofString _
  have hseconds : wholeSeconds fractionalSupply.now = -1 := by decide +kernel
  obtain ⟨hmade, hread, -⟩ :=
    assertion_read_back escapedSource fractionalSupply rfl hkey hthumbprint hwhole hclient hnow
  obtain ⟨form, hform⟩ := hmade.mpr ⟨signingKey, rfl, by decide +kernel⟩
  obtain ⟨-, text, htext, hparts⟩ := hread form hform
  rw [hurl, hseconds] at hparts
  exact ⟨hkey, hthumbprint, hwhole, hclient, hnow, form, text, hform, htext, hparts⟩

end CloudAuth
