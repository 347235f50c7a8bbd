import CloudAuth.Proofs.BagOrder

/-!
# Why a bundle does not open

`Unopenable` lists the reasons why bytes cannot be opened with a secret: they are no bundle, the message
code refuses the secret, the bags cannot be laid out, or the first key or a certificate cannot be read.
`open?_eq_none_iff` says that the list is complete.
-/

namespace CloudAuth

open Asn1

/-- Going through some parts fails exactly at a part that gives nothing. -/
theorem mapM_eq_none_iff {α β : Type} {read? : α → Option β} {parts : List α} :
    parts.mapM read? = none ↔ ∃ part ∈ parts, read? part = none := by
  induction parts with
  | nil => simp
  | cons part rest ih =>
    rw [List.mapM_cons]
    simp only [Option.bind_eq_bind, Option.bind_eq_none_iff, Option.pure_def, reduceCtorEq, imp_false,
      List.mem_cons, exists_eq_or_imp, ← ih]
    cases hpart : read? part with
    | none => simp
    | some found => simp [Option.eq_none_iff_forall_not_mem]

namespace Bundle

/-- No passphrase is found for a secret exactly when it stands for none, or there is a message code that
refuses all. -/
theorem passphrase?_eq_none_iff {bundle : Bundle} {secret : Option Bytes} :
    bundle.passphrase? secret = none ↔ Passphrase.candidates secret = [] ∨
      ∃ code, bundle.code = some code ∧
        ∀ passphrase ∈ Passphrase.candidates secret, code.accepts passphrase bundle.safes = false := by
  unfold passphrase?
  cases bundle.code with
  | none => simp
  | some code =>
    constructor
    · exact fun hnone => .inr ⟨code, rfl, by simpa using hnone⟩
    · rintro (hcandidates | ⟨other, hother, hrefused⟩)
      · simp [hcandidates]
      · cases hother
        simpa using hrefused

/-- Why the bags of a bundle cannot be laid out under a passphrase. -/
inductive Sealed (bundle : Bundle) (passphrase : Passphrase) : Prop where
  /-- The safes cannot be told apart. -/
  | unlisted (hsafes : (Element.leading? .basic bundle.safes).bind (·.sequence? .basic) = none)
  /-- A safe cannot be read or decrypted. -/
  | safe {safes : List Element} {safe : Element}
      (hsafes : (Element.leading? .basic bundle.safes).bind (·.sequence? .basic) = some safes)
      (hsafe : safe ∈ safes) (hclosed : bagsOfSafe? passphrase safe = none)
  /-- A bag cannot be read, or holds bags too deep inside each other. -/
  | bag {safes : List Element} {found : List (List Element)} {bag : Element}
      (hsafes : (Element.leading? .basic bundle.safes).bind (·.sequence? .basic) = some safes)
      (hfound : safes.mapM (bagsOfSafe? passphrase) = some found) (hbag : bag ∈ found.flatten)
      (hclosed : innerBags? maxBagDepth bag = none)

/-- The bags cannot be laid out exactly for one of the reasons listed. -/
theorem bags?_eq_none_iff {bundle : Bundle} {passphrase : Passphrase} :
    bundle.bags? passphrase = none ↔ bundle.Sealed passphrase := by
  have hbags : bundle.bags? passphrase =
      ((Element.leading? .basic bundle.safes).bind (·.sequence? .basic)).bind fun safes =>
        (safes.mapM (bagsOfSafe? passphrase)).bind fun found =>
          (found.flatten.mapM (innerBags? maxBagDepth)).map List.flatten := by
    unfold bags?
    simp [Option.bind_assoc, Option.map_eq_bind]
  rw [hbags]
  constructor
  · intro hnone
    cases hsafes : (Element.leading? .basic bundle.safes).bind (·.sequence? .basic) with
    | none => exact .unlisted hsafes
    | some safes =>
      rw [hsafes, Option.bind_some] at hnone
      cases hfound : safes.mapM (bagsOfSafe? passphrase) with
      | none =>
        obtain ⟨safe, hsafe, hclosed⟩ := mapM_eq_none_iff.mp hfound
        exact .safe hsafes hsafe hclosed
      | some found =>
        rw [hfound, Option.bind_some, Option.map_eq_none_iff] at hnone
        obtain ⟨bag, hbag, hclosed⟩ := mapM_eq_none_iff.mp hnone
        exact .bag hsafes hfound hbag hclosed
  · rintro (hsafes | ⟨hsafes, hsafe, hclosed⟩ | ⟨hsafes, hfound, hbag, hclosed⟩)
    · rw [hsafes, Option.bind_none]
    · rw [hsafes, Option.bind_some, mapM_eq_none_iff.mpr ⟨_, hsafe, hclosed⟩, Option.bind_none]
    · rw [hsafes, Option.bind_some, hfound, Option.bind_some,
        mapM_eq_none_iff.mpr ⟨_, hbag, hclosed⟩, Option.map_none]

/-- Why bytes cannot be opened with a secret. -/
inductive Unopenable (data : Bytes) (secret : Option Bytes) : Prop where
  /-- They are no bundle. -/
  | malformed (hbundle : ofBytes? data = none)
  /-- The secret is no text, and stands for no passphrase. -/
  | noText {bundle : Bundle} (hbundle : ofBytes? data = some bundle)
      (hcandidates : Passphrase.candidates secret = [])
  /-- The message code refuses every passphrase that the secret stands for. -/
  | refused {bundle : Bundle} {code : BundleCode} (hbundle : ofBytes? data = some bundle)
      (hcode : bundle.code = some code)
      (hrefused : ∀ passphrase ∈ Passphrase.candidates secret,
        code.accepts passphrase bundle.safes = false)
  /-- The bags cannot be laid out, since something cannot be read or decrypted. -/
  | closed {bundle : Bundle} {passphrase : Passphrase} (hbundle : ofBytes? data = some bundle)
      (hpassphrase : bundle.passphrase? secret = some passphrase)
      (hsealed : bundle.Sealed passphrase)
  /-- The key in the first bag that has one cannot be decrypted or read. -/
  | brokenKey {passphrase : Passphrase} {bags : List Element} {bag : Element}
      (hbags : bagsUnder? data secret = some (passphrase, bags))
      (hfirst : bags.find? hasKey = some bag) (hbroken : keyOf? passphrase bag = none)
  /-- A certificate cannot be read. -/
  | brokenCertificate {passphrase : Passphrase} {bags : List Element} {bag : Element}
      (hbags : bagsUnder? data secret = some (passphrase, bags)) (hbag : bag ∈ bags)
      (hbroken : certificatesOf? bag = none)

/-- The first key cannot be told exactly if the bag that has it cannot be decrypted or read. -/
theorem firstKey?_eq_none_iff {passphrase : Passphrase} {bags : List Element} :
    firstKey? passphrase bags = none ↔
      ∃ bag, bags.find? hasKey = some bag ∧ keyOf? passphrase bag = none := by
  unfold firstKey?
  cases bags.find? hasKey <;> simp

/-- The certificates cannot be told exactly if one cannot be read. -/
theorem certificatesIn?_eq_none_iff {bags : List Element} :
    certificatesIn? bags = none ↔ ∃ bag ∈ bags, certificatesOf? bag = none := by
  rw [certificatesIn?, Option.map_eq_none_iff, mapM_eq_none_iff]

/-- A bundle does not open exactly if its bags cannot be laid out, or its key or a certificate cannot be
read. -/
theorem open?_eq_none_iff_bags {data : Bytes} {secret : Option Bytes} :
    open? data secret = none ↔ bagsUnder? data secret = none ∨
      ∃ passphrase bags, bagsUnder? data secret = some (passphrase, bags) ∧
        (firstKey? passphrase bags = none ∨ certificatesIn? bags = none) := by
  rw [open?_eq]
  cases bagsUnder? data secret with
  | none => simp
  | some found =>
    obtain ⟨passphrase, bags⟩ := found
    cases hkey : firstKey? passphrase bags with
    | none => simp [hkey]
    | some key => simp [hkey]

/-- The bags of a bundle cannot be laid out exactly if there is no bundle, no passphrase, or something in
it cannot be read or decrypted. -/
theorem bagsUnder?_eq_none_iff {data : Bytes} {secret : Option Bytes} :
    bagsUnder? data secret = none ↔ ofBytes? data = none ∨
      ∃ bundle, ofBytes? data = some bundle ∧ (bundle.passphrase? secret = none ∨
        ∃ passphrase, bundle.passphrase? secret = some passphrase ∧
          bundle.bags? passphrase = none) := by
  unfold bagsUnder?
  cases ofBytes? data with
  | none => simp
  | some bundle =>
    cases hpassphrase : bundle.passphrase? secret with
    | none => simp [hpassphrase]
    | some passphrase => cases hbags : bundle.bags? passphrase <;> simp [hpassphrase, hbags]

/-- Bytes cannot be opened exactly for one of the reasons listed. -/
theorem open?_eq_none_iff {data : Bytes} {secret : Option Bytes} :
    open? data secret = none ↔ Unopenable data secret := by
  rw [open?_eq_none_iff_bags, bagsUnder?_eq_none_iff]
  constructor
  · rintro ((hbundle | ⟨bundle, hbundle, hrefused | ⟨passphrase, hpassphrase, hbags⟩⟩) |
      ⟨passphrase, bags, hbags, hkey | hcertificates⟩)
    · exact .malformed hbundle
    · rcases passphrase?_eq_none_iff.mp hrefused with hcandidates | ⟨code, hcode, hall⟩
      · exact .noText hbundle hcandidates
      · exact .refused hbundle hcode hall
    · exact .closed hbundle hpassphrase (bags?_eq_none_iff.mp hbags)
    · obtain ⟨bag, hfirst, hbroken⟩ := firstKey?_eq_none_iff.mp hkey
      exact .brokenKey hbags hfirst hbroken
    · obtain ⟨bag, hbag, hbroken⟩ := certificatesIn?_eq_none_iff.mp hcertificates
      exact .brokenCertificate hbags hbag hbroken
  · intro h
    cases h with
    | malformed hbundle => exact .inl (.inl hbundle)
    | noText hbundle hcandidates =>
      exact .inl (.inr ⟨_, hbundle, .inl (passphrase?_eq_none_iff.mpr (.inl hcandidates))⟩)
    | refused hbundle hcode hrefused =>
      exact .inl (.inr ⟨_, hbundle, .inl (passphrase?_eq_none_iff.mpr (.inr ⟨_, hcode, hrefused⟩))⟩)
    | closed hbundle hpassphrase hsealed =>
      exact .inl (.inr ⟨_, hbundle, .inr ⟨_, hpassphrase, bags?_eq_none_iff.mpr hsealed⟩⟩)
    | brokenKey hbags hfirst hbroken =>
      exact .inr ⟨_, _, hbags, .inl (firstKey?_eq_none_iff.mpr ⟨_, hfirst, hbroken⟩)⟩
    | brokenCertificate hbags hbag hbroken =>
      exact .inr ⟨_, _, hbags, .inr (certificatesIn?_eq_none_iff.mpr ⟨_, hbag, hbroken⟩)⟩

/-- A bundle that opens holds no key exactly if none of its bags has one. -/
theorem Opening.key_eq_none_iff {data : Bytes} {secret : Option Bytes} {passphrase : Passphrase}
    {bags : List Element} {key : Option PrivateKey} {certificates : List Certificate}
    (h : Opening data secret passphrase bags key certificates) :
    key = none ↔ ∀ bag ∈ bags, hasKey bag = false := by
  have hkey := h.key_eq
  unfold firstKey? at hkey
  cases hfind : bags.find? hasKey with
  | none =>
    rw [hfind] at hkey
    cases hkey
    simpa using hfind
  | some bag =>
    rw [hfind] at hkey
    obtain ⟨k, -, rfl⟩ := Option.map_eq_some_iff.mp hkey
    have hbag := List.mem_of_find?_eq_some hfind
    have hhas := List.find?_some hfind
    simp only [reduceCtorEq, false_iff, not_forall]
    exact ⟨bag, hbag, by simp [hhas]⟩

end Bundle

end CloudAuth
