import CloudAuth.Json.Basic
import CloudAuth.Number.Decimal
import CloudAuth.Number.Shortest
import CloudAuth.Text.Quoted

/-!
# Values in messages

How a value is shown inside a message: a string as it stands, and everything else in a one-line
notation with blanks after commas and colons, in which nested strings are quoted.
-/

namespace CloudAuth.Json

mutual

/-- The one-line notation of a value. -/
def notationChars : Json → List Char
  | null => ['N', 'o', 'n', 'e']
  | bool true => ['T', 'r', 'u', 'e']
  | bool false => ['F', 'a', 'l', 's', 'e']
  | int n => Decimal.intChars n
  | float x => Shortest.chars x
  | str t => Text.quotedChars t
  | arr items => '[' :: itemsNotation items ++ [']']
  | obj members => '{' :: membersNotation members ++ ['}']

/-- The items of an array in that notation. -/
def itemsNotation : List Json → List Char
  | [] => []
  | [item] => notationChars item
  | item :: rest => notationChars item ++ ',' :: ' ' :: itemsNotation rest

/-- The members of an object in that notation. -/
def membersNotation : List (Text × Json) → List Char
  | [] => []
  | [(name, value)] => Text.quotedChars name ++ ':' :: ' ' :: notationChars value
  | (name, value) :: rest =>
    Text.quotedChars name ++ ':' :: ' ' :: notationChars value ++ ',' :: ' ' :: membersNotation rest

end

/-- A value as a message shows it. -/
def display : Json → Text
  | str t => t
  | v => v.notationChars.map .scalar

end CloudAuth.Json
