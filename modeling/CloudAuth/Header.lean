import CloudAuth.Text.CodePoint
import CloudAuth.Text.Lowercase

/-!
# Header fields

The header fields of a request. Names are told apart without regard to case, so no two fields of a set
have the same name in that sense. A field that is set again keeps its place and takes the last spelling
of its name and the last value.
-/

namespace CloudAuth

/-- A header field. -/
structure HeaderField where
  /-- The name. -/
  name : Text
  /-- The value. -/
  value : Text
  deriving DecidableEq, Repr

namespace HeaderField

/-- What names are told apart by. -/
def key (field : HeaderField) : Text := Text.lower field.name

/-- A list of fields with one more at the end, or in place of the field with the same `mark`. -/
def put (mark : HeaderField → Text) (field : HeaderField) : List HeaderField → List HeaderField
  | [] => [field]
  | other :: rest =>
    if mark other = mark field then field :: rest else other :: put mark field rest

/-- After a field is put into a list, every mark is one of the old ones or the new one. -/
theorem mem_marks_put {mark : HeaderField → Text} {field : HeaderField}
    {fields : List HeaderField} {m : Text} (h : m ∈ (put mark field fields).map mark) :
    m ∈ fields.map mark ∨ m = mark field := by
  induction fields with
  | nil => simpa [put] using h
  | cons other rest ih =>
    unfold put at h
    split at h
    · rename_i same
      simp only [List.map_cons, List.mem_cons] at h ⊢
      rcases h with h | h
      · exact .inr h
      · exact .inl (.inr h)
    · simp only [List.map_cons, List.mem_cons] at h ⊢
      rcases h with h | h
      · exact .inl (.inl h)
      · rcases ih h with h | h
        · exact .inl (.inr h)
        · exact .inr h

/-- Putting a field into a list keeps the marks apart. -/
theorem nodup_marks_put {mark : HeaderField → Text} {field : HeaderField}
    {fields : List HeaderField} (h : (fields.map mark).Nodup) : ((put mark field fields).map mark).Nodup := by
  induction fields with
  | nil => simp [put]
  | cons other rest ih =>
    rw [List.map_cons, List.nodup_cons] at h
    unfold put
    split
    · rename_i same
      rw [List.map_cons, List.nodup_cons, ← same]
      exact h
    · rename_i different
      rw [List.map_cons, List.nodup_cons]
      refine ⟨fun member => ?_, ih h.2⟩
      rcases mem_marks_put member with member | member
      · exact h.1 member
      · exact different member

end HeaderField

/-- The header fields of a request in their order. -/
structure HeaderSet where
  /-- The fields. -/
  fields : List HeaderField
  /-- No name stands twice. -/
  nodup_keys : (fields.map HeaderField.key).Nodup
  deriving Repr

namespace HeaderSet

/-- No fields. -/
def empty : HeaderSet := ⟨[], by simp⟩

/-- The fields with one set, in its old place if there is one of that name in any case. -/
def set (headers : HeaderSet) (field : HeaderField) : HeaderSet :=
  ⟨HeaderField.put HeaderField.key field headers.fields,
    HeaderField.nodup_marks_put headers.nodup_keys⟩

/-- The fields of a list in which names may stand more than once: first the fields of exactly the same
name are put together, and then those of the same name in another case. -/
def ofFields (fields : List HeaderField) : HeaderSet :=
  (fields.foldl (fun done field => HeaderField.put HeaderField.name field done) []).foldl set empty

/-- The name of the field that carries a token. -/
def authorizationName : Text := "Authorization"

/-- What stands in front of a token. -/
def bearerScheme : Text := "Bearer "

/-- The fields with a token set. -/
def setBearer (headers : HeaderSet) (token : Text) : HeaderSet :=
  headers.set ⟨authorizationName, bearerScheme ++ token⟩

end HeaderSet

end CloudAuth
