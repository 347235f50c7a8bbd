/-!
# Binary floating point

The values of the 64-bit binary format as exact numbers: a sign, a mantissa and a power of two. A
decimal numeral is rounded to the nearest such value, and of two nearest ones to the one with the
even mantissa. Nothing here depends on the machine's own arithmetic.
-/

namespace CloudAuth

/-- A value of the 64-bit binary format. -/
inductive Binary64 where
  /-- Not a number. -/
  | nan
  /-- An infinity, negative or positive. -/
  | infinite (negative : Bool)
  /-- The number `± mantissa · 2 ^ exponent`. -/
  | finite (negative : Bool) (mantissa : Nat) (exponent : Int)
  deriving DecidableEq, Repr

namespace Binary64

/-- The least power of two in the format. -/
def minExponent : Int := -1074

/-- The largest power of two of a mantissa of full length. -/
def maxExponent : Int := 971

/-- The quotient `num / den` rounded to the nearest natural number, a tie to the even one. -/
def roundQuotient (num den : Nat) : Nat :=
  let q := num / den
  let r := num % den
  if 2 * r < den then q
  else if den < 2 * r then q + 1
  else if q % 2 = 0 then q else q + 1

/-- The power of two that gives the positive number `num / den` a mantissa of full length, or the
least power of the format. -/
def scaleOf (num den : Nat) : Int :=
  let guess : Int := (Nat.log2 num : Int) - (Nat.log2 den : Int)
  let high :=
    if guess ≥ 0 then decide (den * Nat.pow 2 guess.toNat ≤ num)
    else decide (den ≤ num * Nat.pow 2 (-guess).toNat)
  max (if high then guess - 52 else guess - 53) minExponent

/-- The positive number `num / den` rounded to the format. -/
def ofQuotient (negative : Bool) (num den : Nat) : Binary64 :=
  let scale := scaleOf num den
  let mantissa :=
    if scale ≥ 0 then roundQuotient num (den * Nat.pow 2 scale.toNat)
    else roundQuotient (num * Nat.pow 2 (-scale).toNat) den
  if mantissa = Nat.pow 2 53 then
    if scale + 1 > maxExponent then infinite negative else finite negative (Nat.pow 2 52) (scale + 1)
  else if scale > maxExponent then infinite negative
  else finite negative mantissa scale

/-- The number `digits · 10 ^ exponent` rounded to the format. Numbers whose size is far outside the
format are recognised from the count of their digits alone. -/
def ofDecimal (negative : Bool) (digits : Nat) (exponent : Int) : Binary64 :=
  if digits = 0 then finite negative 0 minExponent
  else
    let size : Int := (Nat.toDigits 10 digits).length + exponent
    if size > 310 then infinite negative
    else if size < -330 then finite negative 0 minExponent
    else if exponent ≥ 0 then ofQuotient negative (digits * Nat.pow 10 exponent.toNat) 1
    else ofQuotient negative digits (Nat.pow 10 (-exponent).toNat)

/-- Whether the value is zero, of either sign. -/
def isZero : Binary64 → Bool
  | finite _ mantissa _ => mantissa == 0
  | _ => false

/-- The integer part of `mantissa · 2 ^ exponent`. -/
def wholePart (mantissa : Nat) (exponent : Int) : Nat :=
  if exponent ≥ 0 then mantissa * Nat.pow 2 exponent.toNat else mantissa / Nat.pow 2 (-exponent).toNat

/-- The integer part of a number, towards zero; there is none for the values that are no numbers. -/
def truncate? : Binary64 → Option Int
  | finite negative mantissa exponent =>
    some (if negative then -Int.ofNat (wholePart mantissa exponent)
      else Int.ofNat (wholePart mantissa exponent))
  | _ => none

/-- The exact value of a number. -/
def toRat? : Binary64 → Option Rat
  | finite negative mantissa exponent =>
    let magnitude : Rat :=
      if exponent ≥ 0 then (mantissa : Rat) * (2 : Rat) ^ exponent.toNat
      else (mantissa : Rat) / (2 : Rat) ^ (-exponent).toNat
    some (if negative then -magnitude else magnitude)
  | _ => none

/-- The value as an integer, if it is one. -/
def toInt? (x : Binary64) : Option Int :=
  match x with
  | finite _ mantissa exponent =>
    if exponent ≥ 0 ∨ mantissa % Nat.pow 2 (-exponent).toNat = 0 then x.truncate? else none
  | _ => none

end Binary64

end CloudAuth
