import CloudAuth.Hash.Sha512
import CloudAuth.Hash.Shake256
import CloudAuth.Number.Modular

/-!
# Twisted curves

The two curves `a x² + y² = 1 + d x² y²` whose keys are seeds: the seed is hashed, the hash is
trimmed to a factor, and the public key is that multiple of the base point, written as its second
coordinate with one bit of the first. Points are kept with a common denominator.
-/

namespace CloudAuth

/-- A twisted curve with its base point and its rules for seeds. -/
structure EdwardsCurve where
  /-- The size of the field. -/
  prime : Nat
  /-- The coefficient of `x²`. -/
  a : Nat
  /-- The coefficient of `x² y²`. -/
  d : Nat
  /-- The base point's first coordinate. -/
  baseX : Nat
  /-- The base point's second coordinate. -/
  baseY : Nat
  /-- The count of bytes in seeds and public keys. -/
  size : Nat
  /-- The factor that a seed stands for. -/
  factor : Bytes → Nat

namespace EdwardsCurve

/-- A point with coordinates `x / z` and `y / z`. -/
structure Point where
  /-- The first coordinate's numerator. -/
  x : Nat
  /-- The second coordinate's numerator. -/
  y : Nat
  /-- The common denominator. -/
  z : Nat

/-- The neutral point. -/
def neutral : Point := ⟨0, 1, 1⟩

/-- The sum of two points. -/
def add (c : EdwardsCurve) (p q : Point) : Point :=
  let m := c.prime
  let z := p.z * q.z % m
  let zz := z * z % m
  let xx := p.x * q.x % m
  let yy := p.y * q.y % m
  let e := c.d * xx % m * yy % m
  let f := (zz + m - e) % m
  let g := (zz + e) % m
  let cross := ((p.x + p.y) * (q.x + q.y) + 2 * m - xx - yy) % m
  ⟨z * f % m * cross % m, z * g % m * ((yy + m - c.a * xx % m) % m) % m, f * g % m⟩

/-- The multiple of a point, from the low bits of the factor on. -/
def multiple (c : EdwardsCurve) : (bits factor : Nat) → Point → Point
  | 0, _, _ => neutral
  | bits + 1, factor, p =>
    let rest := multiple c bits (factor / 2) (c.add p p)
    if factor % 2 = 1 then c.add p rest else rest

/-- The written form of a point: its second coordinate, least significant byte first, with the lowest
bit of the first coordinate as the highest bit of the last byte. -/
def pointBytes (c : EdwardsCurve) (p : Point) : Bytes :=
  let inverse := Modular.inverse c.prime p.z
  let x := p.x * inverse % c.prime
  let y := p.y * inverse % c.prime
  (Bytes.ofNat c.size (y + x % 2 * Nat.pow 2 (8 * c.size - 1))).reverse

/-- The public key of a seed. -/
def publicKey (c : EdwardsCurve) (seed : Bytes) : Bytes :=
  let factor := c.factor seed
  c.pointBytes (c.multiple (8 * c.size) factor ⟨c.baseX, c.baseY, 1⟩)

/-- The number of some bytes, least significant byte first. -/
def littleEndian (bytes : Bytes) : Nat := Bytes.toNat bytes.reverse

/-- The curve over the field of `2 ^ 255 - 19`: of the hash, the three low bits are cleared, and bit 254
is the highest one. -/
def ed25519 : EdwardsCurve where
  prime := Nat.pow 2 255 - 19
  a := Nat.pow 2 255 - 20
  d := 0x52036CEE2B6FFE738CC740797779E89800700A4D4141D8AB75EB4DCA135978A3
  baseX := 0x216936D3CD6E53FEC0A4E231FDD6DC5C692CC7609525A7B2C9562D608F25D51A
  baseY := 0x6666666666666666666666666666666666666666666666666666666666666658
  size := 32
  factor seed :=
    let n := littleEndian ((sha512.digest seed).take 32) % Nat.pow 2 254
    n - n % 8 + Nat.pow 2 254

/-- The curve over the field of `2 ^ 448 - 2 ^ 224 - 1`: of the hash, the two low bits are cleared, and
bit 447 is the highest one. -/
def ed448 : EdwardsCurve where
  prime := Nat.pow 2 448 - Nat.pow 2 224 - 1
  a := 1
  d := Nat.pow 2 448 - Nat.pow 2 224 - 1 - 39081
  baseX := 224580040295924300187604334099896036246789641632564134246125461686950415467406032909029192869357953282578032075146446173674602635247710
  baseY := 298819210078481492676017930443930673437544040154080242095928241372331506189835876003536878655418784733982303233503462500531545062832660
  size := 57
  factor seed :=
    let n := littleEndian ((Shake256.digest 114 seed).take 56) % Nat.pow 2 447
    n - n % 4 + Nat.pow 2 447

end EdwardsCurve

end CloudAuth
