import CloudAuth.Asn1.Identifier
import CloudAuth.Number.Modular

/-!
# Elliptic curves

Curves `y² = x³ + a x + b` over prime fields with a base point, and the multiples of the base point,
which are the public halves of keys.
-/

namespace CloudAuth

/-- A curve with a base point. -/
structure Curve where
  /-- The registered name. -/
  identifier : Bytes
  /-- The size of the field. -/
  prime : Nat
  /-- The coefficient of `x`. -/
  a : Nat
  /-- The base point's first coordinate. -/
  baseX : Nat
  /-- The base point's second coordinate. -/
  baseY : Nat

namespace Curve

/-- A point with coordinates; the point at infinity is `none`. -/
abbrev Point := Option (Nat × Nat)

/-- The third point on the line of slope `slope` through a point, reflected. -/
def onLine (c : Curve) (slope x1 y1 x2 : Nat) : Point :=
  let x := (slope * slope + 2 * c.prime - x1 - x2) % c.prime
  some (x, (slope * (x1 + c.prime - x) + c.prime - y1) % c.prime)

/-- The sum of two points. -/
def add (c : Curve) : Point → Point → Point
  | none, q => q
  | p, none => p
  | some (x1, y1), some (x2, y2) =>
    if x1 = x2 then
      if (y1 + y2) % c.prime = 0 then none
      else
        c.onLine ((3 * x1 * x1 + c.a) * Modular.inverse c.prime (2 * y1) % c.prime) x1 y1 x2
    else
      c.onLine ((y2 + c.prime - y1) * Modular.inverse c.prime (x2 + c.prime - x1) % c.prime) x1 y1 x2

/-- The multiple of a point, from the low bits of the factor on. -/
def multiple (c : Curve) : (bits factor : Nat) → Point → Point
  | 0, _, _ => none
  | bits + 1, factor, p =>
    let rest := multiple c bits (factor / 2) (c.add p p)
    if factor % 2 = 1 then c.add p rest else rest

/-- The count of bytes in a coordinate. -/
def coordinateSize (c : Curve) : Nat := Bytes.width c.prime

/-- The written form of a point that has coordinates. -/
def pointBytes? (c : Curve) : Point → Option Bytes
  | none => none
  | some (x, y) => some (4 :: Bytes.ofNat c.coordinateSize x ++ Bytes.ofNat c.coordinateSize y)

/-- The written form of a multiple of the base point. -/
def publicPoint? (c : Curve) (factor : Nat) : Option Bytes :=
  c.pointBytes? (c.multiple (factor.log2 + 1) factor (some (c.baseX, c.baseY)))

/-- The curve of 224 bits. -/
def secp224r1 : Curve where
  identifier := Asn1.Identifier.secp224r1
  prime := Nat.pow 2 224 - Nat.pow 2 96 + 1
  a := Nat.pow 2 224 - Nat.pow 2 96 - 2
  baseX := 0xB70E0CBD6BB4BF7F321390B94A03C1D356C21122343280D6115C1D21
  baseY := 0xBD376388B5F723FB4C22DFE6CD4375A05A07476444D5819985007E34

/-- The curve of 256 bits. -/
def secp256r1 : Curve where
  identifier := Asn1.Identifier.secp256r1
  prime := Nat.pow 2 256 - Nat.pow 2 224 + Nat.pow 2 192 + Nat.pow 2 96 - 1
  a := Nat.pow 2 256 - Nat.pow 2 224 + Nat.pow 2 192 + Nat.pow 2 96 - 4
  baseX := 0x6B17D1F2E12C4247F8BCE6E563A440F277037D812DEB33A0F4A13945D898C296
  baseY := 0x4FE342E2FE1A7F9B8EE7EB4A7C0F9E162BCE33576B315ECECBB6406837BF51F5

/-- The curve of 256 bits whose `x` has no coefficient. -/
def secp256k1 : Curve where
  identifier := Asn1.Identifier.secp256k1
  prime := Nat.pow 2 256 - Nat.pow 2 32 - 977
  a := 0
  baseX := 0x79BE667EF9DCBBAC55A06295CE870B07029BFCDB2DCE28D959F2815B16F81798
  baseY := 0x483ADA7726A3C4655DA4FBFC0E1108A8FD17B448A68554199C47D08FFB10D4B8

/-- The curve of 384 bits. -/
def secp384r1 : Curve where
  identifier := Asn1.Identifier.secp384r1
  prime := Nat.pow 2 384 - Nat.pow 2 128 - Nat.pow 2 96 + Nat.pow 2 32 - 1
  a := Nat.pow 2 384 - Nat.pow 2 128 - Nat.pow 2 96 + Nat.pow 2 32 - 4
  baseX := 0xAA87CA22BE8B05378EB1C71EF320AD746E1D3B628BA79B9859F741E082542A385502F25DBF55296C3A545E3872760AB7
  baseY := 0x3617DE4A96262C6F5D9E98BF9292DC29F8F41DBD289A147CE9DA3113B5F0B8C00A60B1CE1D7E819D7A431D7C90EA0E5F

/-- The curve of 521 bits. -/
def secp521r1 : Curve where
  identifier := Asn1.Identifier.secp521r1
  prime := Nat.pow 2 521 - 1
  a := Nat.pow 2 521 - 4
  baseX := 0x00C6858E06B70404E9CD9E3ECB662395B4429C648139053FB521F828AF606B4D3DBAA14B5E77EFE75928FE1DC127A2FFA8DE3348B3C1856A429BF97E7E31C2E5BD66
  baseY := 0x011839296A789A3BC0045C8A5FB42C7D1BD998F54449579B446817AFBD17273E662C97EE72995EF42640C550B9013FAD0761353C7086A272C24088BE94769FD16650

/-- The curves that keys may lie on. -/
def known : List Curve := [secp224r1, secp256r1, secp256k1, secp384r1, secp521r1]

/-- The curve with a registered name. -/
def find? (identifier : Bytes) : Option Curve := known.find? (·.identifier == identifier)

end Curve

end CloudAuth
