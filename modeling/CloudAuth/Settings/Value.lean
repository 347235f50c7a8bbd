import CloudAuth.Endpoint
import CloudAuth.Settings.Field

/-!
# Values of fields

What a field accepts. Texts are texts; truth values may also be spelled as words or as the numbers zero
and one; a blank text is no path.
-/

namespace CloudAuth

/-- What is wrong with a value. -/
inductive FieldProblem where
  /-- It is no text. -/
  | notText
  /-- It is a text that cannot be encoded. -/
  | notUnicode
  /-- It is none of the versions. -/
  | notVersion
  /-- It could be a truth value, but is none. -/
  | unclearTruth
  /-- It can be no truth value. -/
  | notTruth
  /-- It can be no path. -/
  | notPath
  /-- The settings cannot be changed. -/
  | frozen
  deriving DecidableEq, Repr

namespace FieldProblem

/-- The description of the problem. -/
def description : FieldProblem → String
  | notText => "Input should be a valid string"
  | notUnicode => "Input should be a valid string, unable to parse raw data as a unicode string"
  | notVersion => "Input should be 'v1' or 'v2'"
  | unclearTruth => "Input should be a valid boolean, unable to interpret input"
  | notTruth => "Input should be a valid boolean"
  | notPath => "Input is not a valid path for <class 'pathlib.Path'>"
  | frozen => "Instance is frozen"

/-- The short name of the problem. -/
def code : FieldProblem → String
  | notText => "string_type"
  | notUnicode => "string_unicode"
  | notVersion => "enum"
  | unclearTruth => "bool_parsing"
  | notTruth => "bool_type"
  | notPath => "path_type"
  | frozen => "frozen_instance"

end FieldProblem

namespace SettingValue

/-- Reads a text. -/
def text : SettingValue → Except FieldProblem Text
  | json (.str t) => .ok t
  | _ => .error .notText

/-- Reads a secret. -/
def secretText : SettingValue → Except FieldProblem Text
  | json (.str t) => .ok t
  | secret t => .ok t
  | _ => .error .notText

/-- Reads a value that may be absent. -/
def orNull {α : Type} (read : SettingValue → Except FieldProblem α) :
    SettingValue → Except FieldProblem (Option α)
  | json .null => .ok none
  | value => (read value).map some

/-- The problem with a text that is none of the values, if it can be encoded at all. -/
def textProblem (t : Text) (problem : FieldProblem) : FieldProblem :=
  if t.any CodePoint.isSurrogate then .notUnicode else problem

/-- Reads a version of the protocol. -/
def version : SettingValue → Except FieldProblem TokenVersion
  | json (.str t) =>
    if t = Text.ofString "v1" then .ok .v1
    else if t = Text.ofString "v2" then .ok .v2
    else .error (textProblem t .notVersion)
  | _ => .error .notVersion

/-- The words for true. -/
def trueWords : List Text := ["1", "on", "t", "true", "y", "yes"]

/-- The words for false. -/
def falseWords : List Text := ["0", "off", "f", "false", "n", "no"]

/-- A character with `A` to `Z` in lower case. -/
def lowerAscii (c : Char) : Char := if 'A' ≤ c ∧ c ≤ 'Z' then Char.ofNat (c.toNat + 32) else c

/-- A code point with `A` to `Z` in lower case. -/
def lowerAsciiPoint : CodePoint → CodePoint
  | .scalar c => .scalar (lowerAscii c)
  | .surrogate unit => .surrogate unit

/-- The truth value of a word, in any case of its letters. -/
def truthOfWord (t : Text) : Except FieldProblem Bool :=
  let word := t.map lowerAsciiPoint
  if trueWords.contains word then .ok true
  else if falseWords.contains word then .ok false
  else .error (textProblem t .unclearTruth)

/-- The least number that is above the 64-bit range. -/
def int64Bound : Int := 0x8000000000000000

/-- The truth value of an integer. Integers outside the 64-bit range can be none. -/
def truthOfInt (n : Int) : Except FieldProblem Bool :=
  if n = 0 then .ok false
  else if n = 1 then .ok true
  else if -int64Bound ≤ n ∧ n < int64Bound then .error .unclearTruth
  else .error .notTruth

/-- The truth value of a number with a point, which has to be an integer strictly inside the 64-bit
range. -/
def truthOfFloat (x : Binary64) : Except FieldProblem Bool :=
  match x.toInt? with
  | some n => if n = -int64Bound then .error .notTruth else truthOfInt n
  | none => .error .notTruth

/-- Reads a truth value. -/
def truth : SettingValue → Except FieldProblem Bool
  | json (.bool b) => .ok b
  | json (.str t) => truthOfWord t
  | json (.int n) => truthOfInt n
  | json (.float x) => truthOfFloat x
  | _ => .error .notTruth

/-- Reads a path. -/
def pathOf : SettingValue → Except FieldProblem (Option Path)
  | json .null => .ok none
  | json (.str t) =>
    if Text.isBlankText t then .ok none else .ok (some (Path.ofText t))
  | path p => .ok (some p)
  | _ => .error .notPath

end SettingValue

end CloudAuth
