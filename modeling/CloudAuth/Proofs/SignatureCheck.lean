import CloudAuth.Proofs.SigningRoom

/-!
# Signatures are valid

What a key signs is valid under its public half: the two exponents undo each other modulo both primes, by
the little theorem of Fermat, and so modulo their product, and the padded digest is smaller than the
product. The reader of keys checks all of this but that the primes are primes, which `isPrime` tests by
some bases alone; the theorems here take it as a hypothesis.
-/

namespace CloudAuth

/-- A power whose exponent is one modulo `p - 1` is the base, modulo the prime `p`. -/
theorem Modular.pow_modEq_self {p k : Nat} (hp : p.Prime) (hpos : 0 < k) (hk : k ≡ 1 [MOD p - 1])
    (n : Nat) : n ^ k ≡ n [MOD p] := by
  have : Fact p.Prime := ⟨hp⟩
  rw [← ZMod.natCast_eq_natCast_iff, Nat.cast_pow]
  by_cases hn : (n : ZMod p) = 0
  · rw [hn, zero_pow hpos.ne']
  · obtain ⟨m, hm⟩ := (Nat.modEq_iff_dvd' hpos).mp hk.symm
    have hexponent : k = (p - 1) * m + 1 := by omega
    rw [hexponent, pow_succ, pow_mul, ZMod.pow_card_sub_one_eq_one hn, one_pow, one_mul]

/-- A number `p` is a prime if `p - 1` is a prime times a power of two, and the order of some number modulo
`p` is `p - 1`. -/
theorem Modular.prime_of_power {p : Nat} (r m a : Nat) (hr : r.Prime) (hp : p = r * 2 ^ m + 1)
    (hone : power p a (p - 1) = 1) (hhalf : power p a ((p - 1) / 2) ≠ 1)
    (hpart : power p a ((p - 1) / r) ≠ 1) : p.Prime := by
  have hlt : 1 < p := by
    have hpos := Nat.mul_pos hr.pos (Nat.two_pow_pos m)
    omega
  have hcast (k : Nat) : (a : ZMod p) ^ k = 1 ↔ power p a k = 1 := by
    rw [power_eq, ← Nat.cast_pow, ← Nat.cast_one, ZMod.natCast_eq_natCast_iff', Nat.mod_eq_of_lt hlt]
    rfl
  refine lucas_primality p a ((hcast _).mpr hone) fun q hq hdvd => ?_
  rw [Ne, hcast]
  have hsub : p - 1 = r * 2 ^ m := by omega
  rw [hsub, hq.dvd_mul] at hdvd
  rcases hdvd with hdvd | hdvd
  · rwa [(Nat.prime_dvd_prime_iff_eq hq hr).mp hdvd]
  · rwa [(Nat.prime_dvd_prime_iff_eq hq Nat.prime_two).mp (hq.dvd_of_dvd_pow hdvd)]

namespace RsaPrivateKey

variable {key : RsaPrivateKey}

/-- What a signature needs of a key whose numbers fit together. -/
theorem eqs_of_isConsistent (hconsistent : key.isConsistent = true) :
    key.modulus = key.prime1 * key.prime2 ∧
      key.privateExponent * key.publicExponent % Nat.lcm (key.prime1 - 1) (key.prime2 - 1) = 1 ∧
      key.coefficient * key.prime2 % key.prime1 = 1 := by
  simp only [isConsistent, Bool.and_eq_true, beq_iff_eq] at hconsistent
  obtain ⟨⟨⟨⟨⟨⟨-, hmodulus⟩, hexponents⟩, -⟩, -⟩, -⟩, hcoefficient⟩ := hconsistent
  exact ⟨hmodulus, hexponents, hcoefficient⟩

/-- The primes of a key whose numbers fit together are different: one has an inverse modulo the other. -/
theorem prime1_ne_prime2 (hconsistent : key.isConsistent = true) : key.prime1 ≠ key.prime2 := by
  obtain ⟨-, -, hcoefficient⟩ := eqs_of_isConsistent hconsistent
  intro hsame
  rw [← hsame, Nat.mul_mod_left] at hcoefficient
  contradiction

/-- The public operation undoes the private one, on every number below the modulus. -/
theorem power_power (hconsistent : key.isConsistent = true) (hprime1 : key.prime1.Prime)
    (hprime2 : key.prime2.Prime) {n : Nat} (hn : n < key.modulus) :
    Modular.power key.modulus (Modular.power key.modulus n key.privateExponent) key.publicExponent =
      n := by
  obtain ⟨hmodulus, hexponents, -⟩ := eqs_of_isConsistent hconsistent
  have hpos : 0 < key.privateExponent * key.publicExponent := by
    by_contra hzero
    rw [Nat.eq_zero_of_not_pos hzero, Nat.zero_mod] at hexponents
    contradiction
  have hlcm : key.privateExponent * key.publicExponent ≡ 1
      [MOD Nat.lcm (key.prime1 - 1) (key.prime2 - 1)] := by
    have hone := Nat.mod_mod (key.privateExponent * key.publicExponent)
      (Nat.lcm (key.prime1 - 1) (key.prime2 - 1))
    rw [hexponents] at hone
    exact hexponents.trans hone.symm
  have hcoprime : Nat.Coprime key.prime1 key.prime2 :=
    (Nat.coprime_primes hprime1 hprime2).mpr (prime1_ne_prime2 hconsistent)
  have hmod : n ^ (key.privateExponent * key.publicExponent) ≡ n [MOD key.modulus] := by
    rw [hmodulus, ← Nat.modEq_and_modEq_iff_modEq_mul hcoprime]
    exact ⟨Modular.pow_modEq_self hprime1 hpos (hlcm.of_dvd (Nat.dvd_lcm_left _ _)) n,
      Modular.pow_modEq_self hprime2 hpos (hlcm.of_dvd (Nat.dvd_lcm_right _ _)) n⟩
  calc Modular.power key.modulus (Modular.power key.modulus n key.privateExponent) key.publicExponent
    _ = (n ^ key.privateExponent % key.modulus) ^ key.publicExponent % key.modulus := by
      rw [Modular.power_eq, Modular.power_eq]
      rfl
    _ = n ^ (key.privateExponent * key.publicExponent) % key.modulus := by
      rw [← Nat.pow_mod, ← Nat.pow_mul]
    _ = n % key.modulus := hmod
    _ = n := Nat.mod_eq_of_lt hn

end RsaPrivateKey

namespace RsaSignature

/-- A padded digest is as long as it should be, and the first byte of it is zero. -/
theorem padded?_eq_some {size : Nat} {message block : Bytes} (hblock : padded? size message = some block) :
    block.length = size ∧ ∃ rest, block = 0 :: rest := by
  unfold padded? at hblock
  dsimp only at hblock
  split at hblock
  · contradiction
  · next hroom =>
    cases hblock
    refine ⟨?_, _, rfl⟩
    simp only [List.length_cons, List.length_append, List.length_replicate]
    unfold minPadding at hroom
    omega

/-- The number of a padded digest is smaller than a modulus of its length. -/
theorem toNat_lt_of_padded? {modulus : Nat} {message block : Bytes}
    (hblock : padded? (Bytes.width modulus) message = some block) : Bytes.toNat block < modulus := by
  obtain ⟨hlength, rest, rfl⟩ := padded?_eq_some hblock
  rw [List.length_cons] at hlength
  have hmodulus : ¬ Bytes.width modulus ≤ rest.length := by omega
  rw [Bytes.width_le_iff] at hmodulus
  rw [Bytes.toNat_zero_cons]
  exact Nat.lt_of_lt_of_le (Bytes.toNat_lt rest) (Nat.le_of_not_lt hmodulus)

/-- What a key signs is valid under its public half, if its numbers fit together and its primes are
primes. -/
theorem verify_of_sign? {key : RsaPrivateKey} (hconsistent : key.isConsistent = true)
    (hprime1 : key.prime1.Prime) (hprime2 : key.prime2.Prime) {message signature : Bytes}
    (hsign : sign? key message = some signature) : verify key.publicKey message signature = true := by
  obtain ⟨block, hblock, rfl⟩ := Option.map_eq_some_iff.mp hsign
  have hlt : Bytes.toNat block < key.modulus := toNat_lt_of_padded? hblock
  have hpower : Modular.power key.modulus (Bytes.toNat block) key.privateExponent < key.modulus := by
    rw [Modular.power_eq]
    exact Nat.mod_lt _ (Nat.zero_lt_of_lt hlt)
  have hnumber : Bytes.toNat (Bytes.ofNat key.publicKey.size
      (Modular.power key.modulus (Bytes.toNat block) key.privateExponent)) =
        Modular.power key.modulus (Bytes.toNat block) key.privateExponent := by
    rw [Bytes.toNat_ofNat]
    exact Nat.mod_eq_of_lt (hpower.trans ((Bytes.width_le_iff _ _).mp (Nat.le_refl _)))
  have hback : Bytes.ofNat key.publicKey.size (Bytes.toNat block) = block := by
    rw [← (padded?_eq_some hblock).1, Bytes.ofNat_toNat]
  have hpublic : Modular.power key.publicKey.modulus
      (Modular.power key.modulus (Bytes.toNat block) key.privateExponent) key.publicKey.exponent =
        Bytes.toNat block :=
    RsaPrivateKey.power_power hconsistent hprime1 hprime2 hlt
  unfold verify
  rw [hnumber, hblock, hpublic, hback]
  simp only [Bytes.length_ofNat, beq_self_eq_true, Bool.true_and, Bool.and_true, decide_eq_true_eq]
  exact hpower

end RsaSignature

end CloudAuth
