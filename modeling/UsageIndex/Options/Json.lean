import UsageIndex.Json.Printer
import UsageIndex.Options

/-!
# Session options as structured texts

Options are a record with one field, `fields`, which holds the names of the index fields as a
record. What is missing has its standard value; a member with another name is refused.

* **`SessionOptions.read`**: the options of a text, if they are valid.
-/

namespace UsageIndex

namespace IndexFields

/-- The names of the members. -/
def memberNames : List String := ["references", "packageName", "referencesCaseInsensitive"]

/-- The names of the index fields as a value. -/
def toJson (f : IndexFields) : Json :=
  .ofMembers [
    ("references", .ofText f.references),
    ("packageName", .ofText f.packageName),
    ("referencesCaseInsensitive", .ofText f.referencesCaseless)]

/-- The names of the index fields of a value. -/
def ofJson? (j : Json) : Option IndexFields := do
  let r ← j.record? memberNames true
  let references ← r.textOr? "references" standard.references
  let packageName ← r.textOr? "packageName" standard.packageName
  let referencesCaseless ← r.textOr? "referencesCaseInsensitive" standard.referencesCaseless
  return ⟨references, packageName, referencesCaseless⟩

/-- The names of the index fields are the names of their value. -/
theorem ofJson?_toJson (f : IndexFields) : ofJson? f.toJson = some f := by
  have hrecord : f.toJson.record? memberNames true = some ⟨[
      ("references", .ofText f.references),
      ("packageName", .ofText f.packageName),
      ("referencesCaseInsensitive", .ofText f.referencesCaseless)]⟩ := by
    simp [toJson, memberNames, Json.fields?]
  unfold ofJson?
  rw [hrecord]
  simp only [Option.pure_def, Option.bind_eq_bind, Option.bind_some]
  rw [Json.Record.textOr?_of_lookup (t := f.references) rfl, Option.bind_some,
    Json.Record.textOr?_of_lookup (t := f.packageName) rfl, Option.bind_some,
    Json.Record.textOr?_of_lookup (t := f.referencesCaseless) rfl, Option.bind_some]

theorem writable_toJson (f : IndexFields) : f.toJson.Writable :=
  Json.writable_ofMembers (by simp)

end IndexFields

namespace SessionOptions

/-- Options as a value. -/
def toJson (o : SessionOptions) : Json := .ofMembers [("fields", o.fields.toJson)]

/-- The options of a value. -/
def ofJson? (j : Json) : Option SessionOptions := do
  let r ← j.record? ["fields"] true
  match r.get? "fields" with
  | some f => return ⟨← IndexFields.ofJson? f⟩
  | none => return standard

/-- The options of a structured text; they have to be valid. -/
def read (s : String) : Except Error SessionOptions :=
  match (Json.parse? s).bind ofJson? with
  | none => .error (.invalidFormat "session options" "the text does not describe options")
  | some o =>
    match o.validate with
    | .ok () => .ok o
    | .error e => .error e

/-- Options are the options of their value. -/
theorem ofJson?_toJson (o : SessionOptions) : ofJson? o.toJson = some o := by
  have hrecord : o.toJson.record? ["fields"] true = some ⟨[("fields", o.fields.toJson)]⟩ := by
    simp [toJson, Json.fields?]
  have hfields : Json.Record.get? ⟨[("fields", o.fields.toJson)]⟩ "fields"
      = some o.fields.toJson := rfl
  unfold ofJson?
  rw [hrecord]
  simp only [Option.pure_def, Option.bind_eq_bind, Option.bind_some, hfields]
  rw [IndexFields.ofJson?_toJson, Option.bind_some]

theorem writable_toJson (o : SessionOptions) : o.toJson.Writable :=
  Json.writable_ofMembers (by simp [IndexFields.writable_toJson])

end SessionOptions

end UsageIndex
