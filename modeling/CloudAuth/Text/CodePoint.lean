/-!
# Code points

Text that came out of an escape sequence, or out of bytes that are no UTF-8, may hold half of a surrogate
pair standing alone, which no `Char` can be. A `Text` is a list of code points and keeps such halves apart
from the characters. Everything that comes from outside is a `Text`; a `String` has no such halves, and
stands for the text of its characters.
-/

namespace CloudAuth

/-- A Unicode code point: a character, or one of the numbers set aside for surrogate pairs. -/
inductive CodePoint where
  /-- A character proper. -/
  | scalar (c : Char)
  /-- Half of a surrogate pair that stands alone. -/
  | surrogate (unit : Nat)
  deriving DecidableEq, Repr

namespace CodePoint

/-- The number of the code point. -/
def value : CodePoint → Nat
  | scalar c => c.toNat
  | surrogate unit => unit

/-- Whether the code point is half of a surrogate pair. -/
def isSurrogate : CodePoint → Bool
  | scalar _ => false
  | surrogate _ => true

/-- The character shown for the code point; a lone surrogate has none and shows as U+FFFD. -/
def shown : CodePoint → Char
  | scalar c => c
  | surrogate _ => '\uFFFD'

end CodePoint

/-- A sequence of code points. -/
abbrev Text := List CodePoint

namespace Text

/-- The text of a string, character by character. -/
def ofString (s : String) : Text := s.toList.map .scalar

instance : Coe String Text := ⟨ofString⟩

/-- The string that shows a text. -/
def shown (t : Text) : String := String.ofList (t.map CodePoint.shown)

/-- Showing the text of a string gives the string back. -/
theorem shown_ofString (s : String) : (ofString s).shown = s := by
  simp [shown, ofString, Function.comp_def, CodePoint.shown]

/-- Distinct strings have distinct texts. -/
theorem ofString_injective {s t : String} (h : ofString s = ofString t) : s = t := by
  rw [← shown_ofString s, h, shown_ofString]

end Text

end CloudAuth
