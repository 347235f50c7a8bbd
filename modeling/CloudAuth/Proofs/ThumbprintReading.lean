import CloudAuth.Proofs.Base64Bits
import CloudAuth.Proofs.Pairing

/-!
# The digest is read back from a thumbprint

A thumbprint has twenty-seven characters, all of them fit for a header, and stands for the twenty bytes of
the digest without loss. So thumbprints tell certificates apart as well as their digests do, and no
better: whether two certificates may have the same digest is not a matter of their thumbprints.
-/

namespace CloudAuth

/-- A digest has twenty bytes. -/
theorem Sha1.length_digest (message : Bytes) : (sha1.digest message).length = 20 := by
  unfold Hash.digest Hash.finish
  generalize sha1.absorb sha1.initial _ = chain
  rfl

namespace Base64

variable (alphabet : Alphabet)

/-- Bytes with the same text are the same. -/
theorem encodeBare_injective : Function.Injective (encodeBare alphabet) := by
  intro bytes others htext
  have hholds := holdsBits_encodeBare alphabet bytes
  rw [htext] at hholds
  exact hholds.bytes_unique (holdsBits_encodeBare alphabet others)

/-- The padding makes a text without it the one that is read as the bytes. -/
theorem decode?_addPadding_encodeBare (bytes : Bytes) :
    decode? alphabet (addPadding (encodeBare alphabet bytes)) = some bytes := by
  rw [(encodeBare_spec alphabet bytes).2, decode?_encode]

end Base64

namespace Certificate

/-- The text of a digest has twenty-seven characters. -/
theorem length_thumbprintText (bytes : Bytes) : (thumbprintText bytes).length = 27 := by
  have hbounds := (Base64.holdsBits_encodeBare .urlSafe (sha1.digest bytes)).length_bounds
  rw [Sha1.length_digest] at hbounds
  rw [thumbprintText]
  omega

/-- The characters of a thumbprint are letters, digits, hyphens and underscores. -/
theorem isFit_of_mem_thumbprintText {bytes : Bytes} {c : Char} (hc : c ∈ thumbprintText bytes) :
    c.isAlphanum ∨ c = '-' ∨ c = '_' :=
  (Base64.Alphabet.contains_urlSafe_iff c).mp (Base64.contains_of_mem_encodeBare .urlSafe hc)

/-- The thumbprint of a certificate is the text of the digest of its bytes. -/
theorem thumbprint?_of_ofBytes? {bytes : Bytes} {certificate : Certificate}
    (hread : ofBytes? bytes = some certificate) : thumbprint? bytes = some (thumbprintText bytes) := by
  rw [thumbprint?, hread, Option.map_some, bytes_of_ofBytes? hread]

end Certificate

/-- The bytes of every certificate have a thumbprint, which is twenty-seven characters long, is made of
letters, digits, hyphens and underscores alone, and is read back with its padding as the digest of the
bytes. So two certificates have the same thumbprint exactly if their digests are the same. This goes for
bytes of every length: a text without padding is read as the bytes that it was written for and no other
text is, and it holds their bits, six in each character. -/
theorem digest_read_back :
    (∀ bytes certificate, Certificate.ofBytes? bytes = some certificate →
      ∃ thumbprint, Certificate.thumbprint? bytes = some thumbprint ∧ thumbprint.length = 27 ∧
        (∀ c ∈ thumbprint, c.isAlphanum ∨ c = '-' ∨ c = '_') ∧
        Base64.decode? .urlSafe (Base64.addPadding thumbprint) = some (sha1.digest bytes)) ∧
    (∀ bytes certificate other otherCertificate, Certificate.ofBytes? bytes = some certificate →
      Certificate.ofBytes? other = some otherCertificate →
      (Certificate.thumbprint? bytes = Certificate.thumbprint? other ↔
        sha1.digest bytes = sha1.digest other)) ∧
    ∀ text bytes,
      (Base64.decodeBare? .urlSafe text = some bytes ↔ Base64.encodeBare .urlSafe bytes = text) ∧
      (Base64.encodeBare .urlSafe bytes = text ↔ Base64.HoldsBits .urlSafe text bytes) := by
  refine ⟨fun bytes certificate hread => ?_, fun bytes _ other _ hread hother => ?_, fun text bytes => ?_⟩
  · exact ⟨Certificate.thumbprintText bytes, Certificate.thumbprint?_of_ofBytes? hread,
      Certificate.length_thumbprintText bytes, fun c => Certificate.isFit_of_mem_thumbprintText,
      Base64.decode?_addPadding_encodeBare .urlSafe _⟩
  · rw [Certificate.thumbprint?_of_ofBytes? hread, Certificate.thumbprint?_of_ofBytes? hother,
      Option.some_inj]
    exact (Base64.encodeBare_injective .urlSafe).eq_iff
  · exact ⟨Base64.decodeBare?_eq_some_iff .urlSafe text bytes, (Base64.holdsBits_iff .urlSafe text bytes).symm⟩

/-- The thumbprint of a certificate is read as its digest, and tells it from another certificate exactly if
the digests do. A text whose last character holds a bit more than the byte is not read. -/
theorem digest_of_signingCertificate :
    Certificate.ofBytes? signingCertificate.bytes = some signingCertificate ∧
      Certificate.ofBytes? foreignCertificate.bytes = some foreignCertificate ∧
      Certificate.thumbprint? signingCertificate.bytes = some "BgBgJtAdWrT-4FQb8Uun9viIs3c".toList ∧
      Base64.decode? .urlSafe "BgBgJtAdWrT-4FQb8Uun9viIs3c=".toList =
        some (sha1.digest signingCertificate.bytes) ∧
      (Certificate.thumbprint? signingCertificate.bytes = Certificate.thumbprint? foreignCertificate.bytes ↔
        sha1.digest signingCertificate.bytes = sha1.digest foreignCertificate.bytes) ∧
      Base64.encodeBare .urlSafe [0xFB] = "-w".toList ∧
      Base64.decodeBare? .urlSafe "-x".toList = none := by
  have hsigning : Certificate.ofBytes? signingCertificate.bytes = some signingCertificate :=
    reads_signingCredential.2
  have hforeign : Certificate.ofBytes? foreignCertificate.bytes = some foreignCertificate := by
    decide +kernel
  have htext : Certificate.thumbprint? signingCertificate.bytes =
      some "BgBgJtAdWrT-4FQb8Uun9viIs3c".toList := by
    decide +kernel
  obtain ⟨hthumbprints, hsame, htexts⟩ := digest_read_back
  obtain ⟨thumbprint, hthumbprint, -, -, hdigest⟩ := hthumbprints _ _ hsigning
  cases htext.symm.trans hthumbprint
  exact ⟨hsigning, hforeign, htext, hdigest, hsame _ _ _ _ hsigning hforeign,
    (htexts "-w".toList [0xFB]).1.mp (by decide), by decide⟩

end CloudAuth
