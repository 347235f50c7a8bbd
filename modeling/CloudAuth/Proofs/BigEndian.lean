import Mathlib
import CloudAuth.Codec.Bytes

/-!
# Numbers and their big-endian forms

Bytes are the big-endian form of their number at their own length. The width of a number is the length
of its shortest form.
-/

namespace CloudAuth.Bytes

/-- Reading a byte in front. -/
theorem toNat_cons (b : UInt8) (bytes : Bytes) :
    toNat (b :: bytes) = b.toNat * 256 ^ bytes.length + toNat bytes := by
  -- The bytes are read from the left, so the induction takes them from the right.
  induction bytes using List.reverseRecOn with
  | nil => simp [toNat]
  | append_singleton init last ih =>
    rw [← List.cons_append, toNat_concat, toNat_concat, ih, List.length_append, List.length_singleton,
      Nat.pow_succ, Nat.add_mul, Nat.mul_assoc, Nat.add_assoc]

/-- A zero in front does not count. -/
theorem toNat_zero_cons (bytes : Bytes) : toNat (0 :: bytes) = toNat bytes := by
  rw [toNat_cons, UInt8.toNat_zero, Nat.zero_mul, Nat.zero_add]

/-- The number of some bytes is bounded by their length. -/
theorem toNat_lt (bytes : Bytes) : toNat bytes < 256 ^ bytes.length := by
  induction bytes with
  | nil => decide
  | cons b rest ih =>
    rw [toNat_cons, List.length_cons, Nat.pow_succ']
    have hb : b.toNat + 1 ≤ 256 := b.toNat_lt
    have hbound := Nat.mul_le_mul_right (256 ^ rest.length) hb
    rw [Nat.add_mul, Nat.one_mul] at hbound
    omega

/-- A byte is the one of each number that it is the remainder of. -/
theorem byte_eq_of_mod {n : Nat} {b : UInt8} (hmod : n % 256 = b.toNat) : UInt8.ofNat n = b := by
  apply UInt8.toNat_inj.mp
  rw [UInt8.toNat_ofNat']
  exact hmod

/-- Bytes are the big-endian form of their number. -/
theorem ofNat_toNat (bytes : Bytes) : ofNat bytes.length (toNat bytes) = bytes := by
  induction bytes using List.reverseRecOn with
  | nil => rfl
  | append_singleton init last ih =>
    have hlast := last.toNat_lt
    have hquotient : (toNat init * 256 + last.toNat) / 256 = toNat init := by omega
    have hdigit : UInt8.ofNat (toNat init * 256 + last.toNat) = last := byte_eq_of_mod (by omega)
    rw [List.length_append, List.length_singleton, toNat_concat, ofNat, hquotient, hdigit, ih]

/-- The width of a number is at most `k` exactly when `k` bytes hold the number. -/
theorem width_le_iff (n k : Nat) : width n ≤ k ↔ n < 256 ^ k := by
  unfold width
  split
  · next hn =>
    subst hn
    exact ⟨fun _ => Nat.pow_pos (by decide), fun _ => Nat.zero_le k⟩
  · next hn =>
    have hpower : 256 ^ k = 2 ^ (8 * k) := by rw [Nat.pow_mul]
    rw [hpower, ← Nat.log2_lt hn]
    omega

/-- The big-endian form holds the number up to its width. -/
theorem toNat_ofNat (width n : Nat) : toNat (ofNat width n) = n % 256 ^ width := by
  induction width generalizing n with
  | zero => simp [ofNat, toNat, Nat.mod_one]
  | succ width ih =>
    have split : n % 256 ^ (width + 1) = n % 256 + 256 * (n / 256 % 256 ^ width) := by
      rw [Nat.pow_succ', Nat.mod_mul]
    rw [ofNat, toNat_concat, ih, UInt8.toNat_ofNat', split]
    omega

/-- The shortest form holds the number. -/
theorem toNat_ofNat_width (n : Nat) : toNat (ofNat (width n) n) = n := by
  rw [toNat_ofNat]
  exact Nat.mod_eq_of_lt ((width_le_iff n _).mp (Nat.le_refl _))

/-- Bytes that do not start with a zero are the shortest form of their number. -/
theorem width_toNat_cons {b : UInt8} (hb : b ≠ 0) (bytes : Bytes) :
    width (toNat (b :: bytes)) = (b :: bytes).length := by
  have hle : width (toNat (b :: bytes)) ≤ (b :: bytes).length :=
    (width_le_iff _ _).mpr (toNat_lt _)
  have hge : ¬ width (toNat (b :: bytes)) ≤ bytes.length := by
    rw [width_le_iff, toNat_cons, Nat.not_lt]
    have hpos : 1 ≤ b.toNat := Nat.pos_of_ne_zero fun hzero => hb (UInt8.toNat_inj.mp hzero)
    have hbound := Nat.mul_le_mul_right (256 ^ bytes.length) hpos
    omega
  rw [List.length_cons] at hle ⊢
  omega

/-- Bytes that do not start with a zero are read back from their number. -/
theorem ofNat_width_toNat_cons {b : UInt8} (hb : b ≠ 0) (bytes : Bytes) :
    ofNat (width (toNat (b :: bytes))) (toNat (b :: bytes)) = b :: bytes := by
  rw [width_toNat_cons hb, ofNat_toNat]

/-- Bytes that do not start with a zero are not the number zero. -/
theorem toNat_cons_ne_zero {b : UInt8} (hb : b ≠ 0) (bytes : Bytes) : toNat (b :: bytes) ≠ 0 := by
  intro hzero
  have hwidth := width_toNat_cons hb bytes
  rw [hzero] at hwidth
  contradiction

end CloudAuth.Bytes
