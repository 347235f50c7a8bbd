import CloudAuth.Number.Binary64
import CloudAuth.Number.Decimal

/-!
# Shortest decimal text

A number of the binary format is written with the fewest decimal digits that read back as the same
number; of several such decimals the nearest is taken. The search tries one digit, two digits, and
so on: on each decimal grid only the two neighbours of the value can be the answer.
-/

namespace CloudAuth.Shortest

/-- The decimal number `digits · 10 ^ exponent`. -/
structure DecimalNumber where
  /-- The significant digits as one number. -/
  digits : Nat
  /-- The power of ten of the last digit. -/
  exponent : Int
  deriving DecidableEq, Repr

/-- The positive number `mantissa · 2 ^ exponent`, as a quotient of natural numbers that has been
multiplied by four and by `10 ^ (-place)`. -/
def scaled (mantissa : Nat) (exponent place : Int) : Nat × Nat :=
  (mantissa * Nat.pow 2 exponent.toNat * Nat.pow 10 (-place).toNat,
    Nat.pow 2 (-exponent).toNat * Nat.pow 10 place.toNat)

/-- The largest `place` from `start` downwards, within `fuel` steps, at which the number is at least
one unit. -/
def leadingPlace (mantissa : Nat) (exponent : Int) : (fuel : Nat) → (start : Int) → Int
  | 0, start => start
  | fuel + 1, start =>
    let (num, den) := scaled mantissa exponent start
    if den ≤ num then start else leadingPlace mantissa exponent fuel (start - 1)

/-- The place of the leading decimal digit of a positive number. -/
def leadingDigit (mantissa : Nat) (exponent : Int) : Int :=
  let bits : Int := Nat.log2 mantissa + exponent
  leadingPlace mantissa exponent 6 (bits * 30103 / 100000 + 2)

/-- The nearest number of the grid `10 ^ place` that reads back as `mantissa · 2 ^ exponent`. The
bounds of what reads back are a half unit of the mantissa away, below a power of two a quarter, and
belong to it when the mantissa is even. -/
def onGrid? (mantissa : Nat) (exponent place : Int) : Option DecimalNumber :=
  let (num, den) := scaled (4 * mantissa) (exponent - 2) place
  let unit := (scaled 1 (exponent - 2) place).1
  let below := if mantissa = Nat.pow 2 52 ∧ exponent > Binary64.minExponent then unit else 2 * unit
  let above := 2 * unit
  let inside (n : Nat) : Bool :=
    if mantissa % 2 = 0 then num ≤ n * den + below && n * den ≤ num + above
    else num < n * den + below && n * den < num + above
  let low := num / den
  let high := low + 1
  let lowGap := num - low * den
  let highGap := high * den - num
  match inside low && low != 0, inside high with
  | true, true =>
    some ⟨if lowGap < highGap ∨ (lowGap = highGap ∧ low % 2 = 0) then low else high, place⟩
  | true, false => some ⟨low, place⟩
  | false, true => some ⟨high, place⟩
  | false, false => none

/-- The first grid with a hit, from `count` digits on and within `fuel` steps. -/
def search (mantissa : Nat) (exponent lead : Int) : (fuel : Nat) → (count : Nat) → DecimalNumber
  | 0, _ => ⟨0, 0⟩
  | fuel + 1, count =>
    match onGrid? mantissa exponent (lead - count + 1) with
    | some decimal => decimal
    | none => search mantissa exponent lead fuel (count + 1)

/-- The shortest decimal that reads back as the positive number `mantissa · 2 ^ exponent`. -/
def decimalOf (mantissa : Nat) (exponent : Int) : DecimalNumber :=
  search mantissa exponent (leadingDigit mantissa exponent) 20 1

/-- Numbers below ten to this power are written without an exponent. -/
def positionalLimit : Int := 16

/-- Numbers from ten to this power on are written without an exponent. -/
def positionalStart : Int := -4

/-- An exponent: its sign and at least two digits. -/
def exponentChars (n : Int) : List Char :=
  let digits := Decimal.natChars n.natAbs
  'e' :: (if n < 0 then '-' else '+') :: (if digits.length < 2 then '0' :: digits else digits)

/-- The digits without the zeros at their end. -/
def trimZeros (digits : List Char) : List Char :=
  (digits.reverse.dropWhile (· == '0')).reverse

/-- A positive decimal number in positional or exponential notation. -/
def decimalChars (d : DecimalNumber) : List Char :=
  let all := Decimal.natChars d.digits
  let point : Int := all.length + d.exponent
  let digits := trimZeros all
  if positionalStart < point ∧ point ≤ positionalLimit then
    if point ≤ 0 then '0' :: '.' :: List.replicate (-point).toNat '0' ++ digits
    else if digits.length ≤ point.toNat then
      digits ++ List.replicate (point.toNat - digits.length) '0' ++ ['.', '0']
    else digits.take point.toNat ++ '.' :: digits.drop point.toNat
  else
    match digits with
    | [] => []
    | [d] => d :: exponentChars (point - 1)
    | d :: rest => d :: '.' :: rest ++ exponentChars (point - 1)

/-- The text of a value of the binary format. -/
def chars : Binary64 → List Char
  | .nan => ['n', 'a', 'n']
  | .infinite negative => (if negative then ['-'] else []) ++ ['i', 'n', 'f']
  | .finite negative mantissa exponent =>
    (if negative then ['-'] else []) ++
      if mantissa = 0 then ['0', '.', '0'] else decimalChars (decimalOf mantissa exponent)

/-- The text of a value of the binary format as a string. -/
def text (x : Binary64) : String := String.ofList (chars x)

end CloudAuth.Shortest
