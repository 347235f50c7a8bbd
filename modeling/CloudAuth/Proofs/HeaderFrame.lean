import CloudAuth.Header
import CloudAuth.Proofs.LowerCase

/-!
# What is left when a token is set

A token that is set in the fields of a request stands there once, whatever case the name of its field was
written in before, and the other fields stay as they were, in their order.

Names are told apart by their lower-case forms, in which letters of other scripts count too. No such letter
comes to one of the name of this field, so a field is replaced exactly if it has this name in some case of
the letters of ASCII.
-/

namespace CloudAuth

namespace HeaderField

variable {mark : HeaderField → Text}

/-- Putting a field into a list leaves the fields with other marks as they were. -/
theorem filter_put_of_ne (field : HeaderField) (fields : List HeaderField) :
    (put mark field fields).filter (mark · ≠ mark field) = fields.filter (mark · ≠ mark field) := by
  induction fields with
  | nil => simp [put]
  | cons other rest ih =>
    unfold put
    split
    · next hsame => simp [hsame]
    · next hother =>
      rw [List.filter_cons_of_pos (by simpa using hother), List.filter_cons_of_pos (by simpa using hother),
        ih]

/-- A field that is put into a list with different marks is the only one with its mark. -/
theorem filter_put_of_eq (field : HeaderField) {fields : List HeaderField}
    (hmarks : (fields.map mark).Nodup) :
    (put mark field fields).filter (mark · = mark field) = [field] := by
  induction fields with
  | nil => simp [put]
  | cons other rest ih =>
    rw [List.map_cons, List.nodup_cons] at hmarks
    unfold put
    split
    · next hsame =>
      have hrest : rest.filter (mark · = mark field) = [] := by
        refine List.filter_eq_nil_iff.mpr fun next hnext hmark => hmarks.1 ?_
        rw [hsame, ← of_decide_eq_true hmark]
        exact List.mem_map_of_mem hnext
      simp [hrest]
    · next hother =>
      rw [List.filter_cons_of_neg (by simpa using hother)]
      exact ih hmarks.2

/-- The name of a field is a given one, in any case of the letters of ASCII. -/
def IsNamed (name : Text) (field : HeaderField) : Prop :=
  field.name.map SettingValue.lowerAsciiPoint = name.map SettingValue.lowerAsciiPoint

instance (name : Text) (field : HeaderField) : Decidable (field.IsNamed name) :=
  inferInstanceAs (Decidable (_ = _))

/-- A name that is plain in lower case is told from others by the letters of ASCII alone. -/
theorem key_eq_iff_isNamed {name : Text} (hplain : ∀ c ∈ Text.lower name, Text.IsPlainPoint c)
    (field : HeaderField) : field.key = Text.lower name ↔ field.IsNamed name := by
  have hname : name.map SettingValue.lowerAsciiPoint = Text.lower name :=
    (Text.lower_eq_iff hplain name).mp rfl
  rw [IsNamed, hname]
  exact Text.lower_eq_iff hplain field.name

end HeaderField

namespace HeaderSet

/-- The fields before and after a token is set: after it one field alone has the name for it, and the
others are as before. -/
structure SetsBearer (before : HeaderSet) (token : Text) (after : HeaderSet) : Prop where
  /-- The token stands in the field of its name. -/
  authorization : after.fields.filter (·.IsNamed "Authorization") =
    [⟨"Authorization", "Bearer " ++ token⟩]
  /-- The other fields are the same, in the same order. -/
  others : after.fields.filter (¬ ·.IsNamed "Authorization") =
    before.fields.filter (¬ ·.IsNamed "Authorization")

/-- The name of the field for a token is plain in lower case. -/
theorem isPlain_of_mem_lower_authorizationName :
    ∀ c ∈ Text.lower authorizationName, Text.IsPlainPoint c := by
  have hall : (Text.lower authorizationName).all (fun c => decide (Text.IsPlainPoint c)) = true := by
    decide +kernel
  simpa using hall

/-- Setting a token sets it once, and leaves the other fields as they are. -/
theorem setsBearer_setBearer (headers : HeaderSet) (token : Text) :
    headers.SetsBearer token (headers.setBearer token) := by
  let bearer : HeaderField := ⟨authorizationName, bearerScheme ++ token⟩
  have hnamed (field : HeaderField) : field.IsNamed "Authorization" ↔ field.key = bearer.key :=
    (HeaderField.key_eq_iff_isNamed isPlain_of_mem_lower_authorizationName field).symm
  constructor
  · simp only [hnamed]
    exact HeaderField.filter_put_of_eq bearer headers.nodup_keys
  · simp only [hnamed]
    exact HeaderField.filter_put_of_ne bearer headers.fields

end HeaderSet

end CloudAuth
