import CloudAuth.Json.Basic
import CloudAuth.Number.Decimal
import CloudAuth.Number.Shortest
import CloudAuth.Text.Quoted

/-!
# Writing JSON

The compact form of a value: no blanks, members in order, and in strings an escape for everything
that is not a printable ASCII character. A code point above U+FFFF is escaped as a surrogate pair.
-/

namespace CloudAuth.Json

/-- The escape of one 16-bit unit. -/
def unitEscape (unit : Nat) : List Char := '\\' :: 'u' :: Text.hexDigits 4 unit

/-- A character inside a string. -/
def escapeChar (c : Char) : List Char :=
  if c = '"' then ['\\', '"']
  else if c = '\\' then ['\\', '\\']
  else if c = '\n' then ['\\', 'n']
  else if c = '\r' then ['\\', 'r']
  else if c = '\t' then ['\\', 't']
  else if c = '\x08' then ['\\', 'b']
  else if c = '\x0c' then ['\\', 'f']
  else if 0x20 ≤ c.toNat ∧ c.toNat < 0x7F then [c]
  else if c.toNat < 0x10000 then unitEscape c.toNat
  else unitEscape (0xD800 + (c.toNat - 0x10000) / 0x400) ++
    unitEscape (0xDC00 + (c.toNat - 0x10000) % 0x400)

/-- A code point inside a string. -/
def escapeCodePoint : CodePoint → List Char
  | .scalar c => escapeChar c
  | .surrogate unit => unitEscape unit

/-- A string with its quotes. -/
def stringChars (t : Text) : List Char := '"' :: t.flatMap escapeCodePoint ++ ['"']

/-- A number of the binary format. -/
def floatChars : Binary64 → List Char
  | .nan => ['N', 'a', 'N']
  | .infinite negative =>
    (if negative then ['-'] else []) ++ ['I', 'n', 'f', 'i', 'n', 'i', 't', 'y']
  | x => Shortest.chars x

mutual

/-- The compact form of a value. -/
def chars : Json → List Char
  | null => ['n', 'u', 'l', 'l']
  | bool true => ['t', 'r', 'u', 'e']
  | bool false => ['f', 'a', 'l', 's', 'e']
  | int n => Decimal.intChars n
  | float x => floatChars x
  | str t => stringChars t
  | arr items => '[' :: itemsChars items ++ [']']
  | obj members => '{' :: membersChars members ++ ['}']

/-- The items of an array with commas between them. -/
def itemsChars : List Json → List Char
  | [] => []
  | [item] => chars item
  | item :: rest => chars item ++ ',' :: itemsChars rest

/-- The members of an object with commas between them. -/
def membersChars : List (Text × Json) → List Char
  | [] => []
  | [(name, value)] => stringChars name ++ ':' :: chars value
  | (name, value) :: rest => stringChars name ++ ':' :: chars value ++ ',' :: membersChars rest

end

/-- The compact form of a value as a string. -/
def write (v : Json) : String := String.ofList v.chars

end CloudAuth.Json
