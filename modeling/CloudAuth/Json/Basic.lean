import CloudAuth.Number.Binary64
import CloudAuth.Text.CodePoint

/-!
# JSON values

The values of JSON, with integers kept apart from other numbers and with the members of an object in
order. An object that was read has no name twice.
-/

namespace CloudAuth

/-- A JSON value. -/
inductive Json where
  /-- The null value. -/
  | null
  /-- A truth value. -/
  | bool (b : Bool)
  /-- A number written without fraction and exponent. -/
  | int (n : Int)
  /-- Any other number. -/
  | float (x : Binary64)
  /-- A string. -/
  | str (t : Text)
  /-- An array. -/
  | arr (items : List Json)
  /-- An object. -/
  | obj (members : List (Text × Json))
  deriving Repr

namespace Json

/-- The string value of a string. -/
def ofString (s : String) : Json := str (Text.ofString s)

/-- Whether a value counts as given: not null, false, zero or empty. -/
def isTruthy : Json → Bool
  | null => false
  | bool b => b
  | int n => n != 0
  | float x => !x.isZero
  | str t => !t.isEmpty
  | arr items => !items.isEmpty
  | obj members => !members.isEmpty

/-- The name of a value's kind in messages. -/
def kindName : Json → String
  | null => "NoneType"
  | bool _ => "bool"
  | int _ => "int"
  | float _ => "float"
  | str _ => "str"
  | arr _ => "list"
  | obj _ => "dict"

/-- The value of a name in a list of members. -/
def lookup? (name : Text) : List (Text × Json) → Option Json
  | [] => none
  | (key, value) :: rest => if key = name then some value else lookup? name rest

/-- The members with one more at the end, or with a new value where the name stands already. -/
def setMember (name : Text) (value : Json) : List (Text × Json) → List (Text × Json)
  | [] => [(name, value)]
  | (key, old) :: rest =>
    if key = name then (key, value) :: rest else (key, old) :: setMember name value rest

/-- Setting a member sets its value and no other. -/
theorem lookup?_setMember (name other : Text) (value : Json) (members : List (Text × Json)) :
    lookup? other (setMember name value members) =
      if name = other then some value else lookup? other members := by
  induction members with
  | nil => simp [setMember, lookup?]
  | cons member rest ih =>
    obtain ⟨key, old⟩ := member
    by_cases same : key = name
    · by_cases found : name = other
      · simp [setMember, lookup?, same, found]
      · simp [setMember, lookup?, same, found]
    · by_cases found : key = other
      · have different : name ≠ other := fun h => same (found.trans h.symm)
        subst found
        simp [setMember, lookup?, same, different]
      · simp [setMember, lookup?, same, found, ih]

/-- The object of members given in writing order: a name keeps its first place and takes its last
value. -/
def ofMembers (members : List (Text × Json)) : Json :=
  obj (members.foldl (fun done member => setMember member.1 member.2 done) [])

/-- The value of a name given as a string, in an object. -/
def get? (name : String) : Json → Option Json
  | obj members => lookup? (Text.ofString name) members
  | _ => none

end Json

end CloudAuth
