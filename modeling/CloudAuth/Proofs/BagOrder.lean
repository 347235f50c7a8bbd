import CloudAuth.Proofs.BundleContents

/-!
# The bags of a bundle in their order

Bags may hold further bags, and the safes around them may be encrypted. `bagsUnder?` lays out all bags of
a bundle in one list, and `open?_eq` says that this list alone decides what comes out of the bundle: the
key of the first bag that has one, and the certificates of all bags in their order. The two are read
apart from each other, so a bag with a certificate can be put in or taken out without any effect on the
key or on the other certificates.
-/

namespace CloudAuth

open Asn1

/-- To expand each of some parts and to go through what is found there is to go through all that the
parts expand to. -/
theorem foldlM_expanding {α β γ : Type} (expand? : α → Option (List γ)) (step : β → γ → Option β)
    (parts : List α) (b : β) :
    parts.foldlM (fun b part => (expand? part).bind fun found => found.foldlM step b) b =
      (parts.mapM expand?).bind fun found => found.flatten.foldlM step b := by
  induction parts generalizing b with
  | nil => simp
  | cons part rest ih =>
    rw [List.foldlM_cons, List.mapM_cons]
    cases hpart : expand? part with
    | none => rfl
    | some found =>
      cases hrest : rest.mapM expand? with
      | none => simp [ih, hrest]
      | some others => simp [ih, hrest, List.foldlM_append]

namespace Bundle

/-- The bags in a safe. A safe of an unknown kind has none. -/
def bagsOfSafe? (passphrase : Passphrase) (safe : Element) : Option (List Element) := do
  match ← safe.sequence? .basic with
  | kind :: rest =>
    let kind ← kind.identifier?
    if 1 < rest.length then none
    else if kind = Identifier.data ∨ kind = Identifier.encryptedData then
      let value ← (← rest.head?).inside? .basic 0
      let bytes ←
        if kind = Identifier.data then value.octets? .basic else decryptSafe? passphrase value
      (← Element.leading? .basic bytes).sequence? .basic
    else return []
  | [] => none

/-- The bag itself, or in place of a bag with further bags all that are in it. -/
def innerBags? : (depth : Nat) → Element → Option (List Element)
  | 0, _ => none
  | depth + 1, bag => do
    let (kind, value) ← bagParts? bag
    if kind = Identifier.nestedBag then
      return (← (← value.sequence? .basic).mapM (innerBags? depth)).flatten
    else return [bag]

/-- The bags of a bundle in order, none of them with further bags. -/
def bags? (bundle : Bundle) (passphrase : Passphrase) : Option (List Element) := do
  let safes ← (← Element.leading? .basic bundle.safes).sequence? .basic
  let bags := (← safes.mapM (bagsOfSafe? passphrase)).flatten
  return (← bags.mapM (innerBags? maxBagDepth)).flatten

/-- The passphrase that a secret stands for, and the bags of the bundle under it. -/
def bagsUnder? (data : Bytes) (secret : Option Bytes) : Option (Passphrase × List Element) := do
  let bundle ← ofBytes? data
  let passphrase ← bundle.passphrase? secret
  return (passphrase, ← bundle.bags? passphrase)

/-- Whether a bag is one with a key, plain or encrypted. -/
def hasKey (bag : Element) : Bool :=
  match bagParts? bag with
  | some (kind, _) => kind = Identifier.keyBag ∨ kind = Identifier.shroudedKeyBag
  | none => false

/-- The key in a bag. -/
def keyOf? (passphrase : Passphrase) (bag : Element) : Option PrivateKey := do
  let (kind, value) ← bagParts? bag
  if kind = Identifier.keyBag then PrivateKey.ofInfo? .basic value
  else if kind = Identifier.shroudedKeyBag then
    PrivateKey.ofInfo? .basic (← Element.leading? .basic (← unshroud? passphrase value))
  else none

/-- The certificates in a bag, which are one or none. A bag whose certificate cannot be read gives
nothing at all. -/
def certificatesOf? (bag : Element) : Option (List Certificate) := do
  let (kind, value) ← bagParts? bag
  if kind = Identifier.certificateBag then
    let (form, inner) ← typed? value
    if form = Identifier.x509Certificate then
      return [← Certificate.ofBytes? (← inner.octets? .basic)]
    else return []
  else return []

/-- The key in the first bag that has one. -/
def firstKey? (passphrase : Passphrase) (bags : List Element) : Option (Option PrivateKey) :=
  match bags.find? hasKey with
  | some bag => (keyOf? passphrase bag).map some
  | none => some none

/-- The certificates in some bags, in the order of the bags. -/
def certificatesIn? (bags : List Element) : Option (List Certificate) :=
  (bags.mapM certificatesOf?).map List.flatten

/-- The contents with what a bag without further bags holds. -/
def addPlainBag? (passphrase : Passphrase) (contents : BundleContents) (bag : Element) :
    Option BundleContents :=
  if hasKey bag then addKey? contents (keyOf? passphrase bag)
  else (certificatesOf? bag).map fun certificates =>
    { contents with certificates := contents.certificates ++ certificates }

/-- What a bag without further bags adds, by its kind. -/
theorem addPlainBag?_of_typed {bag value : Element} {kind : Bytes}
    (htyped : bagParts? bag = some (kind, value)) (passphrase : Passphrase) (contents : BundleContents) :
    addPlainBag? passphrase contents bag =
      if kind = Identifier.keyBag then addKey? contents (PrivateKey.ofInfo? .basic value)
      else if kind = Identifier.shroudedKeyBag then
        addKey? contents
          (((unshroud? passphrase value).bind (Element.leading? .basic)).bind
            (PrivateKey.ofInfo? .basic))
      else if kind = Identifier.certificateBag then addCertificate? contents value
      else some contents := by
  have hbag : hasKey bag = decide (kind = Identifier.keyBag ∨ kind = Identifier.shroudedKeyBag) := by
    unfold hasKey
    rw [htyped]
  unfold addPlainBag? keyOf? certificatesOf?
  rw [hbag, htyped]
  by_cases hkey : kind = Identifier.keyBag
  · simp [hkey]
  by_cases hshrouded : kind = Identifier.shroudedKeyBag
  · subst hshrouded
    simp [hkey, Option.bind_assoc]
  by_cases hcertificate : kind = Identifier.certificateBag
  · subst hcertificate
    simp only [hkey, hshrouded, decide_false, or_self, if_false, if_true, Option.bind_eq_bind, Option.bind_some]
    unfold addCertificate?
    cases typed? value with
    | none => rfl
    | some typed =>
      obtain ⟨form, inner⟩ := typed
      by_cases hform : form = Identifier.x509Certificate
      · simp [hform, Option.map_bind]
      · simp [hform]
  · simp [hkey, hshrouded, hcertificate]

/-- A bag adds what all the bags in it add, one after the other. -/
theorem addBag?_eq (passphrase : Passphrase) (depth : Nat) (contents : BundleContents) (bag : Element) :
    addBag? passphrase depth contents bag =
      (innerBags? depth bag).bind fun bags => bags.foldlM (addPlainBag? passphrase) contents := by
  induction depth generalizing contents bag with
  | zero => rfl
  | succ depth ih =>
    have hstep : addBag? passphrase depth = fun contents bag =>
        (innerBags? depth bag).bind fun bags => bags.foldlM (addPlainBag? passphrase) contents := by
      funext contents bag
      exact ih contents bag
    unfold addBag? innerBags?
    cases htyped : bagParts? bag with
    | none => rfl
    | some typed =>
      obtain ⟨kind, value⟩ := typed
      by_cases hnested : kind = Identifier.nestedBag
      · have hkinds : Identifier.nestedBag ≠ Identifier.keyBag ∧
            Identifier.nestedBag ≠ Identifier.shroudedKeyBag ∧
            Identifier.nestedBag ≠ Identifier.certificateBag := by decide
        obtain ⟨hkey, hshrouded, hcertificate⟩ := hkinds
        subst hnested
        simp only [Option.bind_eq_bind, Option.bind_some, if_neg hkey, if_neg hshrouded,
          if_neg hcertificate, if_true]
        cases value.sequence? .basic with
        | none => rfl
        | some inner =>
          simp only [Option.bind_some]
          rw [hstep, foldlM_expanding]
          cases inner.mapM (innerBags? depth) <;> rfl
      · simp only [Option.bind_eq_bind, Option.bind_some, if_neg hnested]
        change _ = [bag].foldlM (addPlainBag? passphrase) contents
        rw [List.foldlM_cons, addPlainBag?_of_typed htyped]
        simp

/-- A safe adds what its bags add, one after the other. -/
theorem addSafe?_eq (passphrase : Passphrase) (contents : BundleContents) (safe : Element) :
    addSafe? passphrase contents safe =
      (bagsOfSafe? passphrase safe).bind fun bags =>
        bags.foldlM (addBag? passphrase maxBagDepth) contents := by
  unfold addSafe? bagsOfSafe?
  cases safe.sequence? .basic with
  | none => rfl
  | some parts =>
    cases parts with
    | nil => rfl
    | cons kind rest =>
      simp only [Option.bind_eq_bind, Option.bind_some, Option.bind_assoc]
      cases kind.identifier? with
      | none => rfl
      | some kind =>
        simp only [Option.bind_some]
        by_cases hlong : 1 < rest.length
        · simp [hlong]
        by_cases hdata : kind = Identifier.data
        · simp [hlong, hdata, Option.bind_assoc]
        by_cases hencrypted : kind = Identifier.encryptedData
        · have hkinds : Identifier.encryptedData ≠ Identifier.data := by decide
          simp [hlong, hencrypted, hkinds, Option.bind_assoc]
        · simp [hlong, hdata, hencrypted]

/-- The contents of a bundle are what its bags add, one after the other. -/
theorem contents?_eq (bundle : Bundle) (passphrase : Passphrase) :
    bundle.contents? passphrase =
      (bundle.bags? passphrase).bind fun bags => bags.foldlM (addPlainBag? passphrase) ⟨none, []⟩ := by
  have hsafe : addSafe? passphrase = fun contents safe =>
      (bagsOfSafe? passphrase safe).bind fun bags =>
        bags.foldlM (addBag? passphrase maxBagDepth) contents := by
    funext contents safe
    exact addSafe?_eq passphrase contents safe
  have hbag : addBag? passphrase maxBagDepth = fun contents bag =>
      (innerBags? maxBagDepth bag).bind fun bags =>
        bags.foldlM (addPlainBag? passphrase) contents := by
    funext contents bag
    exact addBag?_eq passphrase maxBagDepth contents bag
  unfold contents? bags?
  simp only [Option.bind_eq_bind, Option.bind_assoc]
  congr 1
  funext e
  congr 1
  funext safes
  rw [hsafe, foldlM_expanding, hbag]
  congr 1
  funext found
  rw [foldlM_expanding]
  rfl

/-- A bag with a key holds no certificate. -/
theorem certificatesOf?_of_hasKey {bag : Element} (hkey : hasKey bag = true) :
    certificatesOf? bag = some [] := by
  unfold hasKey at hkey
  unfold certificatesOf?
  cases htyped : bagParts? bag with
  | none =>
    rw [htyped] at hkey
    contradiction
  | some typed =>
    rw [htyped] at hkey
    have hkinds : Identifier.keyBag ≠ Identifier.certificateBag ∧
        Identifier.shroudedKeyBag ≠ Identifier.certificateBag := by decide
    rcases of_decide_eq_true hkey with hkind | hkind
    · simp [hkind, hkinds.1]
    · simp [hkind, hkinds.2]

/-- The certificates of the first bag come first. -/
theorem certificatesIn?_cons (bag : Element) (bags : List Element) :
    certificatesIn? (bag :: bags) =
      (certificatesOf? bag).bind fun first => (certificatesIn? bags).map fun rest => first ++ rest := by
  unfold certificatesIn?
  rw [List.mapM_cons]
  cases certificatesOf? bag with
  | none => rfl
  | some first => cases bags.mapM certificatesOf? <;> rfl

/-- The first key is in the first bag, if that has one. -/
theorem firstKey?_cons_of_hasKey (passphrase : Passphrase) {bag : Element} (hkey : hasKey bag = true)
    (bags : List Element) : firstKey? passphrase (bag :: bags) = (keyOf? passphrase bag).map some := by
  rw [firstKey?, List.find?_cons_of_pos hkey]

/-- The first key is behind a bag without one. -/
theorem firstKey?_cons_of_not_hasKey (passphrase : Passphrase) {bag : Element}
    (hplain : hasKey bag = false) (bags : List Element) :
    firstKey? passphrase (bag :: bags) = firstKey? passphrase bags := by
  rw [firstKey?, List.find?_cons_of_neg (by simp [hplain]), firstKey?]

/-- Bags add the first key, unless there is one already, and all their certificates. -/
theorem foldlM_addPlainBag? (passphrase : Passphrase) (contents : BundleContents)
    (bags : List Element) :
    bags.foldlM (addPlainBag? passphrase) contents =
      (match contents.key with
        | some key => some (some key)
        | none => firstKey? passphrase bags).bind fun key =>
      (certificatesIn? bags).map fun certificates => ⟨key, contents.certificates ++ certificates⟩ := by
  obtain ⟨key, earlier⟩ := contents
  induction bags generalizing key earlier with
  | nil => cases key <;> simp [firstKey?, certificatesIn?]
  | cons bag rest ih =>
    rw [List.foldlM_cons, certificatesIn?_cons, addPlainBag?]
    cases hkey : hasKey bag with
    | true =>
      rw [certificatesOf?_of_hasKey hkey]
      cases key with
      | some key => simp [addKey?, ih]
      | none =>
        rw [firstKey?_cons_of_hasKey _ hkey]
        cases keyOf? passphrase bag with
        | none => simp [addKey?]
        | some key => simp [addKey?, ih]
    | false =>
      rw [firstKey?_cons_of_not_hasKey _ hkey]
      cases certificatesOf? bag with
      | none => simp
      | some certificates => simp [ih, Function.comp_def]

/-- The bags of a bundle alone decide what comes out of it: the key of the first bag that has one, and
the certificates of all bags in their order. -/
theorem open?_eq (data : Bytes) (secret : Option Bytes) :
    open? data secret = (bagsUnder? data secret).bind fun (passphrase, bags) =>
      (firstKey? passphrase bags).bind fun key =>
        (certificatesIn? bags).map fun certificates => ⟨key, certificates⟩ := by
  unfold open? bagsUnder?
  simp only [Option.bind_eq_bind, Option.bind_assoc]
  congr 1
  funext bundle
  congr 1
  funext passphrase
  rw [contents?_eq]
  congr 1
  funext bags
  rw [foldlM_addPlainBag?]
  rfl

/-- What is found in a bundle that opens: the bags, the key of the first one that has a key, and the
certificates of all of them in their order. -/
structure Opening (data : Bytes) (secret : Option Bytes) (passphrase : Passphrase)
    (bags : List Element) (key : Option PrivateKey) (certificates : List Certificate) : Prop where
  /-- These are the bags, under the passphrase that the secret stands for. -/
  bags_eq : bagsUnder? data secret = some (passphrase, bags)
  /-- This is the first key there. -/
  key_eq : firstKey? passphrase bags = some key
  /-- These are the certificates there. -/
  certificates_eq : certificatesIn? bags = some certificates

/-- A bundle opens exactly to what is found in it. -/
theorem open?_eq_some_iff {data : Bytes} {secret : Option Bytes} {contents : BundleContents} :
    open? data secret = some contents ↔
      ∃ passphrase bags,
        Opening data secret passphrase bags contents.key contents.certificates := by
  rw [open?_eq]
  constructor
  · intro hopen
    obtain ⟨⟨passphrase, bags⟩, hbags, hopen⟩ := Option.bind_eq_some_iff.mp hopen
    obtain ⟨key, hkey, hopen⟩ := Option.bind_eq_some_iff.mp hopen
    obtain ⟨certificates, hcertificates, rfl⟩ := Option.map_eq_some_iff.mp hopen
    exact ⟨passphrase, bags, hbags, hkey, hcertificates⟩
  · rintro ⟨passphrase, bags, hbags, hkey, hcertificates⟩
    simp only [hbags, hkey, hcertificates, Option.bind_some, Option.map_some]

end Bundle

end CloudAuth
