import CloudAuth.Json.Basic
import CloudAuth.Number.Decimal

/-!
# Reading JSON

A reader of JSON texts that also takes `NaN`, `Infinity` and `-Infinity`. Control characters must be
escaped inside strings, escaped surrogate pairs are joined, and a lone half stays what it is. An
integer of too many digits is an error of its own. The reader walks along the text; its recursion
through nested values is bounded by the length of the text.
-/

namespace CloudAuth.Json

/-- Why a text could not be read. -/
inductive ReadError where
  /-- The text does not follow the grammar. -/
  | malformed
  /-- An integer has more digits than allowed. -/
  | tooLong (digits : Nat)
  deriving DecidableEq, Repr

/-- The four characters of white space. -/
def isSpace (c : Char) : Bool := c == ' ' || c == '\t' || c == '\n' || c == '\r'

/-- The text after the white space at its start. -/
def skipSpace (cs : List Char) : List Char := cs.dropWhile isSpace

/-- The value of a hexadecimal digit. -/
def hexValue? (c : Char) : Option Nat :=
  if '0' ≤ c ∧ c ≤ '9' then some (c.toNat - 48)
  else if 'a' ≤ c ∧ c ≤ 'f' then some (c.toNat - 87)
  else if 'A' ≤ c ∧ c ≤ 'F' then some (c.toNat - 55)
  else none

/-- The number of four hexadecimal digits. -/
def hexUnit? (a b c d : Char) : Option Nat := do
  let a ← hexValue? a
  let b ← hexValue? b
  let c ← hexValue? c
  let d ← hexValue? d
  return ((a * 16 + b) * 16 + c) * 16 + d

/-- The code point of one 16-bit unit. -/
def ofUnit (unit : Nat) : CodePoint :=
  if 0xD800 ≤ unit ∧ unit < 0xE000 then .surrogate unit else .scalar (Char.ofNat unit)

/-- The character of a one-letter escape. -/
def shortEscape? (c : Char) : Option Char :=
  if c = '"' then some '"'
  else if c = '\\' then some '\\'
  else if c = '/' then some '/'
  else if c = 'b' then some '\x08'
  else if c = 'f' then some '\x0c'
  else if c = 'n' then some '\n'
  else if c = 'r' then some '\r'
  else if c = 't' then some '\t'
  else none

/-- Puts one more code point in front of a text that was read. -/
def pushFront (p : CodePoint) (read : Option (Text × List Char)) : Option (Text × List Char) :=
  read.map fun (t, rest) => (p :: t, rest)

/-- Reads a string after its opening quote, with the halves of surrogate pairs still apart. -/
def readUnits : List Char → Option (Text × List Char)
  | [] => none
  | '"' :: rest => some ([], rest)
  | '\\' :: 'u' :: a :: b :: c :: d :: rest =>
    match hexUnit? a b c d with
    | some unit => pushFront (ofUnit unit) (readUnits rest)
    | none => none
  | '\\' :: c :: rest =>
    match shortEscape? c with
    | some c => pushFront (.scalar c) (readUnits rest)
    | none => none
  | c :: rest => if c.toNat < 0x20 then none else pushFront (.scalar c) (readUnits rest)

/-- Joins each leading half that is directly followed by a trailing half. -/
def joinPairs : Text → Text
  | [] => []
  | .scalar c :: rest => .scalar c :: joinPairs rest
  | [.surrogate unit] => [.surrogate unit]
  | .surrogate high :: .scalar c :: rest => .surrogate high :: .scalar c :: joinPairs rest
  | .surrogate high :: .surrogate low :: rest =>
    if high < 0xDC00 ∧ 0xDC00 ≤ low then
      .scalar (Char.ofNat (0x10000 + (high - 0xD800) * 0x400 + (low - 0xDC00))) :: joinPairs rest
    else .surrogate high :: joinPairs (.surrogate low :: rest)

/-- Reads a string after its opening quote. -/
def readString (cs : List Char) : Option (Text × List Char) :=
  (readUnits cs).map fun (t, rest) => (joinPairs t, rest)

/-- Whether a character is an ASCII digit. -/
def isDigit (c : Char) : Bool := '0' ≤ c && c ≤ '9'

/-- The digits at the start of a text, and the rest. -/
def digitRun (cs : List Char) : List Nat × List Char :=
  ((cs.takeWhile isDigit).map fun c => c.toNat - 48, cs.dropWhile isDigit)

/-- Reads the digits after a decimal point, if point and digits are there. -/
def readFraction (cs : List Char) : Option (List Nat × List Char) :=
  match cs with
  | '.' :: rest => if (digitRun rest).1.isEmpty then none else some (digitRun rest)
  | _ => none

/-- Reads the digits of an exponent, if there are any. -/
def readExponentDigits (negative : Bool) (cs : List Char) : Option (Int × List Char) :=
  if (digitRun cs).1.isEmpty then none
  else
    let n : Int := Decimal.ofDigits (digitRun cs).1
    some (if negative then -n else n, (digitRun cs).2)

/-- Reads an exponent, if there is one. -/
def readExponent (cs : List Char) : Option (Int × List Char) :=
  match cs with
  | 'e' :: '-' :: rest | 'E' :: '-' :: rest => readExponentDigits true rest
  | 'e' :: '+' :: rest | 'E' :: '+' :: rest => readExponentDigits false rest
  | 'e' :: rest | 'E' :: rest => readExponentDigits false rest
  | _ => none

/-- The whole digits at the start of a number: a zero alone, or digits that start with another. -/
def wholeDigits (cs : List Char) : Option (List Nat × List Char) :=
  match cs with
  | '0' :: rest => some ([0], rest)
  | _ => if (digitRun cs).1.isEmpty then none else some (digitRun cs)

/-- Reads a number after its sign. -/
def readMagnitude (negative : Bool) (cs : List Char) : Except ReadError (Json × List Char) :=
  match wholeDigits cs with
  | none => .error .malformed
  | some (whole, afterWhole) =>
    let (fraction, afterFraction) := (readFraction afterWhole).getD ([], afterWhole)
    match readExponent afterFraction with
    | some (exponent, rest) =>
      .ok (.float (Binary64.ofDecimal negative (Decimal.ofDigits (whole ++ fraction))
        (exponent - fraction.length)), rest)
    | none =>
      if fraction.isEmpty then
        if Decimal.maxDigits < whole.length then .error (.tooLong whole.length)
        else
          let n : Int := Decimal.ofDigits whole
          .ok (.int (if negative then -n else n), afterFraction)
      else
        .ok (.float (Binary64.ofDecimal negative (Decimal.ofDigits (whole ++ fraction))
          (-fraction.length)), afterFraction)

/-- Turns a missing result into a grammar error. -/
def orMalformed {α : Type} : Option α → Except ReadError α
  | some a => .ok a
  | none => .error .malformed

/-- Reads a value that is neither an array nor an object. -/
def readPlain : List Char → Except ReadError (Json × List Char)
  | '"' :: rest => (orMalformed (readString rest)).map fun (t, rest) => (.str t, rest)
  | 'n' :: 'u' :: 'l' :: 'l' :: rest => .ok (.null, rest)
  | 't' :: 'r' :: 'u' :: 'e' :: rest => .ok (.bool true, rest)
  | 'f' :: 'a' :: 'l' :: 's' :: 'e' :: rest => .ok (.bool false, rest)
  | 'N' :: 'a' :: 'N' :: rest => .ok (.float .nan, rest)
  | 'I' :: 'n' :: 'f' :: 'i' :: 'n' :: 'i' :: 't' :: 'y' :: rest =>
    .ok (.float (.infinite false), rest)
  | '-' :: 'I' :: 'n' :: 'f' :: 'i' :: 'n' :: 'i' :: 't' :: 'y' :: rest =>
    .ok (.float (.infinite true), rest)
  | '-' :: rest => readMagnitude true rest
  | cs => readMagnitude false cs

mutual

/-- Reads the value at the start of a text. -/
def readValue : (fuel : Nat) → List Char → Except ReadError (Json × List Char)
  | 0, _ => .error .malformed
  | fuel + 1, '[' :: rest =>
    match skipSpace rest with
    | ']' :: rest => .ok (.arr [], rest)
    | cs => (readItems fuel cs).map fun (items, rest) => (.arr items, rest)
  | fuel + 1, '{' :: rest =>
    match skipSpace rest with
    | '}' :: rest => .ok (.obj [], rest)
    | cs => (readMembers fuel cs).map fun (members, rest) => (ofMembers members, rest)
  | _ + 1, cs => readPlain cs

/-- Reads the items of an array that is not empty, and its closing bracket. -/
def readItems : (fuel : Nat) → List Char → Except ReadError (List Json × List Char)
  | 0, _ => .error .malformed
  | fuel + 1, cs => do
    let (item, rest) ← readValue fuel cs
    match skipSpace rest with
    | ']' :: rest => return ([item], rest)
    | ',' :: rest =>
      let (items, rest) ← readItems fuel (skipSpace rest)
      return (item :: items, rest)
    | _ => .error .malformed

/-- Reads the members of an object that is not empty, and its closing brace. -/
def readMembers : (fuel : Nat) → List Char → Except ReadError (List (Text × Json) × List Char)
  | 0, _ => .error .malformed
  | fuel + 1, '"' :: rest => do
    let (name, rest) ← orMalformed (readString rest)
    match skipSpace rest with
    | ':' :: rest =>
      let (value, rest) ← readValue fuel (skipSpace rest)
      match skipSpace rest with
      | '}' :: rest => return ([(name, value)], rest)
      | ',' :: rest =>
        let (members, rest) ← readMembers fuel (skipSpace rest)
        return ((name, value) :: members, rest)
      | _ => .error .malformed
    | _ => .error .malformed
  | _ + 1, _ => .error .malformed

end

/-- Reads a whole text as one value. -/
def read (cs : List Char) : Except ReadError Json := do
  let (value, rest) ← readValue (2 * cs.length + 2) (skipSpace cs)
  if (skipSpace rest).isEmpty then return value else .error .malformed

end CloudAuth.Json
