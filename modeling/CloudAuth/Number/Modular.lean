/-!
# Modular arithmetic

Powers by repeated squaring, which are the powers of `Nat` reduced once, and a test of primality that
is sure for all composites met in practice.
-/

namespace CloudAuth.Modular

/-- The power `b ^ e` modulo `n`. -/
def power (n b e : Nat) : Nat :=
  if e = 0 then 1 % n
  else
    let half := power n (b * b % n) (e / 2)
    if e % 2 = 1 then b * half % n else half
termination_by e
decreasing_by omega

/-- Repeated squaring gives the power. -/
theorem power_eq (n b e : Nat) : power n b e = Nat.pow b e % n := by
  change power n b e = b ^ e % n
  induction e using Nat.strongRecOn generalizing b with
  | ind e ih =>
    rw [power]
    split
    · rename_i h; simp [h]
    · rename_i h
      have half := ih (e / 2) (by omega) (b * b % n)
      simp only [half]
      have square : (b * b % n) ^ (e / 2) % n = b ^ (2 * (e / 2)) % n := by
        rw [← Nat.pow_mod, ← Nat.pow_two, ← Nat.pow_mul]
      rw [square]
      split
      · rename_i odd
        rw [Nat.mul_mod, Nat.mod_mod, ← Nat.mul_mod, ← Nat.pow_succ']
        congr 2
        omega
      · rename_i even
        congr 2
        omega

/-- The inverse of `a` modulo the prime `p`. -/
def inverse (p a : Nat) : Nat := power p a (p - 2)

/-- The largest odd divisor of `n`, and how often two divides `n`, within `fuel` divisions. -/
def oddPart : (fuel n : Nat) → Nat × Nat
  | 0, n => (n, 0)
  | fuel + 1, n =>
    if n % 2 = 0 ∧ n ≠ 0 then
      let (odd, count) := oddPart fuel (n / 2)
      (odd, count + 1)
    else (n, 0)

/-- Whether one of the next `count` squares is `n - 1`. -/
def reachesMinusOne (n : Nat) : (count x : Nat) → Bool
  | 0, _ => false
  | count + 1, x => x == n - 1 || reachesMinusOne n count (x * x % n)

/-- Whether the base `a` fails to show that the odd number `n` is composite. -/
def passesBase (n a : Nat) : Bool :=
  let (odd, count) := oddPart n.log2 (n - 1)
  let x := power n a odd
  a % n == 0 || x == 1 || reachesMinusOne n count x

/-- The bases of the test. -/
def bases : List Nat := [2, 3, 5, 7, 11, 13, 17, 19, 23, 29, 31, 37]

/-- Whether `n` is taken for a prime. -/
def isPrime (n : Nat) : Bool :=
  n == 2 || (1 < n && n % 2 == 1 && bases.all (passesBase n))

end CloudAuth.Modular
