import CloudAuth.Number.Decimal
import CloudAuth.Text.Blank
import CloudAuth.Text.CodePoint
import CloudAuth.Text.Digit
import CloudAuth.Text.Quoted

/-!
# Integer literals

An integer may be spelled with digits of any script, single underscores between digits, a sign in
front, and white space around. The length limit is checked as soon as the run of digits ends, so an
overlong numeral is reported as such even when something else follows it.
-/

namespace CloudAuth

/-- What a code point can be in an integer literal. -/
inductive LiteralSymbol where
  /-- A digit of any script. -/
  | digit (value : Nat)
  /-- The separator of digit groups. -/
  | underscore
  /-- The sign of a positive number. -/
  | plus
  /-- The sign of a negative number. -/
  | minus
  /-- White space. -/
  | space
  /-- Anything else. -/
  | other
  deriving DecidableEq, Repr

namespace LiteralSymbol

/-- The part of an ASCII character. The information separators are not white space here. -/
def ofAscii (c : Char) : LiteralSymbol :=
  match Decimal.digitOf? c with
  | some d => digit d
  | none =>
    if c = '_' then underscore
    else if c = '+' then plus
    else if c = '-' then minus
    else if c = ' ' ∨ (9 ≤ c.toNat ∧ c.toNat ≤ 13) then space
    else other

/-- The part of a code point. -/
def ofCodePoint : CodePoint → LiteralSymbol
  | .surrogate _ => other
  | .scalar c =>
    if c.toNat < 127 then ofAscii c
    else if Text.isBlank c then space
    else match Text.digitValue? c.toNat with
      | some d => digit d
      | none => other

/-- Whether the symbol belongs to the run of digits. -/
def inNumeral : LiteralSymbol → Bool
  | digit _ | underscore => true
  | _ => false

end LiteralSymbol

/-- Why a text is no integer literal. -/
inductive LiteralError where
  /-- The text does not follow the grammar. -/
  | malformed
  /-- The numeral has more digits than allowed. -/
  | tooLong (digits : Nat)
  deriving DecidableEq, Repr

namespace Literal

/-- The digits of a run in which underscores stand only singly between digits. -/
def digitsOf : List LiteralSymbol → Option (List Nat)
  | [.digit d] => some [d]
  | .digit d :: .underscore :: rest => (digitsOf rest).map (d :: ·)
  | .digit d :: rest => (digitsOf rest).map (d :: ·)
  | _ => none

/-- Reads a numeral up to the end of the text, where only white space may follow it. -/
def readNumeral (symbols : List LiteralSymbol) : Except LiteralError Nat :=
  match digitsOf (symbols.takeWhile LiteralSymbol.inNumeral) with
  | none => .error .malformed
  | some digits =>
    if Decimal.maxDigits < digits.length then .error (.tooLong digits.length)
    else if (symbols.dropWhile LiteralSymbol.inNumeral).all (· == .space) then
      .ok (Decimal.ofDigits digits)
    else .error .malformed

/-- Reads a numeral with its sign. -/
def readSigned : List LiteralSymbol → Except LiteralError Int
  | .plus :: rest => (readNumeral rest).map Int.ofNat
  | .minus :: rest => (readNumeral rest).map fun n => -Int.ofNat n
  | symbols => (readNumeral symbols).map Int.ofNat

/-- Reads an integer literal. -/
def readInteger (t : Text) : Except LiteralError Int :=
  readSigned ((t.map LiteralSymbol.ofCodePoint).dropWhile (· == .space))

end Literal

namespace LiteralError

/-- The longest part of the quoted text that a message shows. -/
def shownChars : Nat := 200

/-- What is wrong with the text `t` that was read as an integer. -/
def message (t : Text) : LiteralError → String
  | malformed =>
    "invalid literal for int() with base 10: " ++ String.ofList ((Text.quotedChars t).take shownChars)
  | tooLong digits =>
    "Exceeds the limit (" ++ Decimal.intText Decimal.maxDigits ++
      " digits) for integer string conversion: value has " ++ Decimal.intText digits ++
      " digits; use sys.set_int_max_str_digits() to increase the limit"

end LiteralError

end CloudAuth
