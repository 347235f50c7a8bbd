import CloudAuth.Text.CodePoint
import CloudAuth.Text.Printable

/-!
# Quoted text

Messages show foreign text in quotes, on one line, with everything that is not printable written as
an escape. The quote is the apostrophe, unless the text holds an apostrophe and no double quote.
-/

namespace CloudAuth.Text

/-- The lower-case hexadecimal digit of a number below sixteen. -/
def hexDigit (n : Nat) : Char :=
  if n < 10 then Char.ofNat (48 + n) else Char.ofNat (87 + n)

/-- The last `width` hexadecimal digits of `n`, most significant first. -/
def hexDigits : (width n : Nat) → List Char
  | 0, _ => []
  | width + 1, n => hexDigits width (n / 16) ++ [hexDigit (n % 16)]

/-- The shortest of the three numeric escapes that holds the code point `n`. -/
def numericEscape (n : Nat) : List Char :=
  if n ≤ 0xFF then '\\' :: 'x' :: hexDigits 2 n
  else if n ≤ 0xFFFF then '\\' :: 'u' :: hexDigits 4 n
  else '\\' :: 'U' :: hexDigits 8 n

/-- A character between the quotes `mark`. -/
def escapeChar (mark c : Char) : List Char :=
  if c = mark ∨ c = '\\' then ['\\', c]
  else if c = '\t' then ['\\', 't']
  else if c = '\n' then ['\\', 'n']
  else if c = '\r' then ['\\', 'r']
  else if isPrintable c then [c]
  else numericEscape c.toNat

/-- A code point between the quotes `mark`. -/
def escapeCodePoint (mark : Char) : CodePoint → List Char
  | .scalar c => escapeChar mark c
  | .surrogate unit => numericEscape unit

/-- The quotes that a text is put into. -/
def quoteMark (t : Text) : Char :=
  if t.contains (.scalar '\'') && !t.contains (.scalar '"') then '"' else '\''

/-- The characters of a text in quotes. -/
def quotedChars (t : Text) : List Char :=
  quoteMark t :: t.flatMap (escapeCodePoint (quoteMark t)) ++ [quoteMark t]

/-- A text in quotes. -/
def quoted (t : Text) : String := String.ofList (quotedChars t)

/-- An optional text in quotes. -/
def quotedOption : Option Text → String
  | none => "None"
  | some t => quoted t

/-- Several texts in quotes, in parentheses. One text alone is followed by a comma. -/
def quotedGroup : List Text → String
  | [t] => "(" ++ quoted t ++ ",)"
  | group => "(" ++ ", ".intercalate (group.map quoted) ++ ")"

end CloudAuth.Text
