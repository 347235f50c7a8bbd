/-!
# Decimal numerals

Integers in decimal notation, without leading zeros, and the value of a sequence of digits.
-/

namespace CloudAuth.Decimal

/-- The digits of a natural number. -/
def natChars (n : Nat) : List Char := Nat.toDigits 10 n

/-- The numeral of an integer. -/
def intChars (n : Int) : List Char :=
  if n < 0 then '-' :: natChars n.natAbs else natChars n.natAbs

/-- The numeral of an integer as a string. -/
def intText (n : Int) : String := String.ofList (intChars n)

/-- The number that a sequence of digits denotes, most significant digit first. -/
def ofDigits (digits : List Nat) : Nat := digits.foldl (fun n d => 10 * n + d) 0

/-- The value of an ASCII digit. -/
def digitOf? (c : Char) : Option Nat :=
  if '0' ≤ c ∧ c ≤ '9' then some (c.toNat - 48) else none

/-- Numerals of more digits than this are refused everywhere. -/
def maxDigits : Nat := 4300

end CloudAuth.Decimal
