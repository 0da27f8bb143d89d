import UsageIndex.Json.Printer
import UsageIndex.Term

/-!
# Terms as structured texts

A term is a record with a field and a text. Other members are left out.

* **`Term.ofJson?_toJson`**: a term is the term of its value.
-/

namespace UsageIndex.Term

/-- A term as a value. -/
def toJson (t : Term) : Json :=
  .ofMembers [("field", .ofText t.field), ("text", .ofText t.text)]

/-- The term of a value. -/
def ofJson? (j : Json) : Option Term := do
  let r ← j.record? ["field", "text"] false
  let field ← r.get? "field"
  let text ← r.get? "text"
  return ⟨← field.text?, ← text.text?⟩

/-- The term of a structured text. -/
def parse? (s : String) : Option Term := (Json.parse? s).bind ofJson?

/-- A term is the term of its value. -/
theorem ofJson?_toJson (t : Term) : ofJson? t.toJson = some t := by
  let r : Json.Record := ⟨[("field", .ofText t.field), ("text", .ofText t.text)]⟩
  have hrecord : t.toJson.record? ["field", "text"] false = some r := by
    simp [r, toJson, Json.fields?]
  have hfield : r.get? "field" = some (.ofText t.field) := rfl
  have htext : r.get? "text" = some (.ofText t.text) := rfl
  simp [ofJson?, hrecord, hfield, htext]

theorem writable_toJson (t : Term) : t.toJson.Writable :=
  Json.writable_ofMembers (by simp)

end UsageIndex.Term
