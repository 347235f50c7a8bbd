import CloudAuth.Text.CodePoint

/-!
# Blanks

The white space of Unicode together with the four information separators. Removing it from both
ends of a text is how names, tenants and paths are compared.
-/

namespace CloudAuth

/-- Whether a character is white space or an information separator. -/
def Text.isBlank (c : Char) : Bool :=
  let n := c.toNat
  (0x09 ≤ n && n ≤ 0x0D) || (0x1C ≤ n && n ≤ 0x20) || n == 0x85 || n == 0xA0 || n == 0x1680 ||
    (0x2000 ≤ n && n ≤ 0x200A) || n == 0x2028 || n == 0x2029 || n == 0x202F || n == 0x205F ||
    n == 0x3000

/-- Whether a code point is white space or an information separator. -/
def CodePoint.isBlank : CodePoint → Bool
  | scalar c => Text.isBlank c
  | surrogate _ => false

namespace Text

/-- The text without the blanks at either end. -/
def strip (t : Text) : Text :=
  ((t.dropWhile CodePoint.isBlank).reverse.dropWhile CodePoint.isBlank).reverse

/-- Whether nothing but blanks is in the text. -/
def isBlankText (t : Text) : Bool := t.all CodePoint.isBlank

end Text

end CloudAuth
