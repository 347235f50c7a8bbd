import CloudAuth.Key.Private
import CloudAuth.Proofs.ElementEncoding

/-!
# Keys are read back

The key of a source is kept in its written form and read again for each assertion. What is read is the
key that was written, whenever the key came out of the general form. The proof needs no arithmetic: the
written parts are the very elements that the key was read from.
-/

namespace CloudAuth

open Asn1

namespace RsaPrivateKey

/-- The elements that the key is written as. -/
def parts (key : RsaPrivateKey) : List Element := ofNatural 0 :: key.numbers.map ofNatural

/-- The written form of a key has bytes. -/
theorem bytes_ne_nil (key : RsaPrivateKey) : key.bytes ≠ [] := by
  unfold bytes Element.bytes
  exact List.cons_ne_nil _ _

/-- The numbers of a key are those that it is read from. -/
theorem eq_cons_numbers_of_ofNumbers? {numbers : List Nat} {key : RsaPrivateKey}
    (hread : ofNumbers? numbers = some key) : numbers = 0 :: key.numbers := by
  unfold ofNumbers? at hread
  split at hread
  · cases hread
    rfl
  · contradiction

/-- A key that is read from an element is written as the parts of the element, and these have a written
form, each for itself and together. -/
theorem parts_of_ofElement? {rules : Rules} {e : Element} {key : RsaPrivateKey} (he : e.IsWritable)
    (hread : ofElement? rules e = some key) :
    (∀ part ∈ key.parts, part.IsWritable) ∧ (ofSequence key.parts).IsWritable ∧
      key.parts.mapM Element.natural? = some (0 :: key.numbers) := by
  unfold ofElement? at hread
  obtain ⟨parts, hparts, hread⟩ := Option.bind_eq_some_iff.mp hread
  obtain ⟨numbers, hnumbers, hread⟩ := Option.bind_eq_some_iff.mp hread
  rw [eq_cons_numbers_of_ofNumbers? hread] at hnumbers
  have hsame : parts = key.parts := Element.eq_map_ofNatural_of_mapM hnumbers
  rw [hsame] at hparts hnumbers
  have hplain : ∀ part ∈ key.parts, part.isConstructed = false := by
    intro part hpart
    obtain ⟨n, -, rfl⟩ : ∃ n ∈ 0 :: key.numbers, ofNatural n = part := List.mem_map.mp hpart
    exact Element.isConstructed_ofNatural n
  obtain ⟨hwritable, hsequence⟩ := Element.isWritable_of_sequence? he hparts hplain
  exact ⟨hwritable, hsequence, hnumbers⟩

end RsaPrivateKey

namespace PrivateKey

/-- A key that fits together and has a written form is the one that its written form is read as. -/
theorem ofBytes_bytes {key : RsaPrivateKey} (hconsistent : key.isConsistent = true)
    (hparts : ∀ part ∈ key.parts, part.IsWritable) (hsequence : (ofSequence key.parts).IsWritable)
    (hnumbers : key.parts.mapM Element.natural? = some (0 :: key.numbers)) :
    ofBytes key.bytes = .ok (.rsa key) := by
  have hlength : key.parts.length = 9 := rfl
  have hkey : ofAnyParts? .distinguished key.parts = some (.rsa key) := by
    unfold ofAnyParts?
    rw [hlength, hnumbers]
    change ofRsa? key = some (.rsa key)
    rw [ofRsa?, if_pos hconsistent]
  have helement : (Element.ofBytes? .distinguished key.bytes).bind (·.sequence? .distinguished) =
      some key.parts := by
    change (Element.ofBytes? .distinguished (ofSequence key.parts).bytes).bind _ = _
    rw [Element.ofBytes?_bytes _ hsequence]
    exact Element.sequence?_ofSequence _ hparts
  rw [ofBytes, helement]
  simp only [hkey]

/-- The parts of an elliptic key are no RSA key. -/
theorem ofEllipticParts?_ne_rsa (rules : Rules) (outer : Option Bytes) (parts : List Element)
    (key : RsaPrivateKey) : ofEllipticParts? rules outer parts ≠ some (.rsa key) := by
  intro hread
  unfold ofEllipticParts? at hread
  split at hread
  · obtain ⟨-, -, hread⟩ := Option.bind_eq_some_iff.mp hread
    obtain ⟨factor, -, hread⟩ := Option.bind_eq_some_iff.mp hread
    obtain ⟨curve, -, hread⟩ := Option.bind_eq_some_iff.mp hread
    split at hread
    · cases hread
    · obtain ⟨known, -, hread⟩ := Option.bind_eq_some_iff.mp hread
      obtain ⟨point, -, hread⟩ := Option.bind_eq_some_iff.mp hread
      cases hread
  · contradiction

/-- An RSA key under the name of an algorithm is read from the one element of its bytes, and fits
together. -/
theorem ofElement?_of_ofParts? {rules : Rules} {algorithm : Bytes} {parameters : List Element}
    {bytes : Bytes} {key : RsaPrivateKey}
    (hread : ofParts? rules algorithm parameters bytes = some (.rsa key)) :
    ∃ inner, Element.ofBytes? rules bytes = some inner ∧
      RsaPrivateKey.ofElement? rules inner = some key ∧ key.isConsistent = true := by
  unfold ofParts? at hread
  split at hread
  · obtain ⟨inner, hinner, hread⟩ := Option.bind_eq_some_iff.mp hread
    obtain ⟨found, hfound, hread⟩ := Option.bind_eq_some_iff.mp hread
    unfold ofRsa? at hread
    split at hread
    · next hconsistent =>
      cases hread
      exact ⟨inner, hinner, hfound, hconsistent⟩
    · contradiction
  -- No other algorithm gives an RSA key.
  · split at hread
    · obtain ⟨seed, -, hread⟩ := Option.map_eq_some_iff.mp hread
      cases hread
    · split at hread
      · obtain ⟨seed, -, hread⟩ := Option.map_eq_some_iff.mp hread
        cases hread
      · split at hread
        · obtain ⟨inner, -, hread⟩ := Option.bind_eq_some_iff.mp hread
          obtain ⟨parts, -, hread⟩ := Option.bind_eq_some_iff.mp hread
          exact absurd hread (ofEllipticParts?_ne_rsa _ _ _ _)
        · split at hread
          · obtain ⟨parameter, -, hread⟩ := Option.bind_eq_some_iff.mp hread
            obtain ⟨parts, -, hread⟩ := Option.bind_eq_some_iff.mp hread
            obtain ⟨numbers, -, hread⟩ := Option.bind_eq_some_iff.mp hread
            split at hread
            · obtain ⟨inner, -, hread⟩ := Option.bind_eq_some_iff.mp hread
              obtain ⟨exponent, -, hread⟩ := Option.bind_eq_some_iff.mp hread
              cases hread
            · contradiction
          · contradiction

/-- A key in the general form is read from its bytes, under the name of its algorithm. -/
theorem ofParts?_of_ofInfo? {rules : Rules} {e : Element} {key : PrivateKey}
    (hread : ofInfo? rules e = some key) :
    ∃ algorithm parameters bytes, ofParts? rules algorithm parameters bytes = some key := by
  obtain ⟨parts, -, hread⟩ := Option.bind_eq_some_iff.mp hread
  unfold ofInfoParts? at hread
  split at hread
  · split at hread
    · obtain ⟨named, -, hread⟩ := Option.bind_eq_some_iff.mp hread
      split at hread
      · split at hread
        · contradiction
        · obtain ⟨algorithm, -, hread⟩ := Option.bind_eq_some_iff.mp hread
          obtain ⟨bytes, -, hread⟩ := Option.bind_eq_some_iff.mp hread
          exact ⟨algorithm, _, bytes, hread⟩
      · contradiction
    · contradiction
  · contradiction

/-- The numbers of an RSA key in the general form fit together. -/
theorem isConsistent_of_ofInfo? {rules : Rules} {e : Element} {key : RsaPrivateKey}
    (hread : ofInfo? rules e = some (.rsa key)) : key.isConsistent = true := by
  obtain ⟨algorithm, parameters, bytes, hnamed⟩ := ofParts?_of_ofInfo? hread
  obtain ⟨inner, -, -, hconsistent⟩ := ofElement?_of_ofParts? hnamed
  exact hconsistent

/-- An RSA key in the general form is the one that its written form is read as. -/
theorem ofBytes_of_ofInfo? {rules : Rules} {e : Element} {key : RsaPrivateKey}
    (hread : ofInfo? rules e = some (.rsa key)) : ofBytes key.bytes = .ok (.rsa key) := by
  obtain ⟨algorithm, parameters, bytes, hnamed⟩ := ofParts?_of_ofInfo? hread
  obtain ⟨inner, hbytes, hinner, hconsistent⟩ := ofElement?_of_ofParts? hnamed
  obtain ⟨hparts, hsequence, hnumbers⟩ :=
    RsaPrivateKey.parts_of_ofElement? (Element.isWritable_of_ofBytes? hbytes) hinner
  exact ofBytes_bytes hconsistent hparts hsequence hnumbers

end PrivateKey

end CloudAuth
