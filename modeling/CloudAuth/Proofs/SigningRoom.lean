import CloudAuth.Assertion
import CloudAuth.Proofs.ElementEncoding

/-!
# Room for a signature

A signature needs a modulus that the padded digest fits into. The padded digest has the same length for
every message, so a key signs every message or none.
-/

namespace CloudAuth

open Asn1

/-- A digest has thirty-two bytes. -/
theorem Sha256.length_digest (message : Bytes) : (sha256.digest message).length = 32 := by
  unfold Hash.digest Hash.finish
  generalize sha256.absorb sha256.initial _ = chain
  rfl

/-- An element with a short content has two bytes more than the content. -/
theorem Asn1.Element.length_bytes_of_short {e : Element} (hshort : e.content.length < 0x80) :
    e.bytes.length = e.content.length + 2 := by
  unfold Element.bytes lengthBytes
  rw [if_pos hshort, List.length_append]
  simp only [List.length_cons, List.length_nil]
  omega

namespace RsaSignature

/-- How many bytes the digest takes behind the name of the hash function. -/
def digestInfoSize : Nat := 51

/-- The least size of a modulus that signs. -/
def minModulusSize : Nat := 62

/-- The digest behind the name of the hash function is as long for every message. -/
theorem length_digestInfo (message : Bytes) : (digestInfo message).length = digestInfoSize := by
  have hname : (ofSequence [⟨identifierTag, Identifier.sha256⟩, ⟨nullTag, []⟩]).bytes.length = 15 := by
    decide
  have hdigest : (Element.mk octetStringTag (sha256.digest message)).bytes.length = 34 := by
    rw [Element.length_bytes_of_short] <;> simp only [Sha256.length_digest]
    decide
  have hcontent : (ofSequence [ofSequence [⟨identifierTag, Identifier.sha256⟩, ⟨nullTag, []⟩],
      ⟨octetStringTag, sha256.digest message⟩]).content.length = 49 := by
    simp only [ofSequence, List.flatMap_cons, List.flatMap_nil, List.append_nil, List.length_append]
    simp only [ofSequence, List.flatMap_cons, List.flatMap_nil, List.append_nil] at hname
    omega
  unfold digestInfo digestInfoSize
  rw [Element.length_bytes_of_short] <;> rw [hcontent]
  decide

/-- A key signs a message exactly when its modulus is large enough, whatever the message is. -/
theorem sign?_isSome_iff (key : RsaPrivateKey) (message : Bytes) :
    (sign? key message).isSome = true ↔ minModulusSize ≤ key.publicKey.size := by
  unfold sign? padded? minModulusSize
  simp only [length_digestInfo, digestInfoSize, minPadding]
  split
  · next hsmall =>
    simp only [Option.map_none, Option.isSome_none, Bool.false_eq_true, false_iff]
    omega
  · next hlarge =>
    simp only [Option.map_some, Option.isSome_some, true_iff]
    omega

end RsaSignature

/-- An assertion is signed exactly when the modulus of the key is large enough, whatever it states. -/
theorem Assertion.sign?_isSome_iff (key : RsaPrivateKey) (thumbprint : List Char) (claims : Claims) :
    (sign? key thumbprint claims).isSome = true ↔
      RsaSignature.minModulusSize ≤ key.publicKey.size := by
  unfold sign?
  rw [Option.isSome_map]
  exact RsaSignature.sign?_isSome_iff key _

end CloudAuth
