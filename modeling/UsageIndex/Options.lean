import UsageIndex.Error
import UsageIndex.Text.Quoted

/-!
# Session options

The names of the index fields that a session reads. Options are valid when no name is empty and the
field of references is not the field of packages.

* **`SessionOptions.validate`**: the first condition that does not hold.
* **`SessionOptions.validate_eq_ok_iff`**: when all of them hold.
-/

namespace UsageIndex

/-- The names of the index fields. -/
structure IndexFields where
  /-- The field of encoded references. -/
  references : String
  /-- The field of packages. -/
  packageName : String
  /-- The field of the lower case copies of references. -/
  referencesCaseless : String
  deriving DecidableEq

/-- The names that hold where no other is given. -/
def IndexFields.standard : IndexFields :=
  ⟨"references", "packageName", "referencesCaseInsensitive"⟩

/-- The options of a session. -/
structure SessionOptions where
  fields : IndexFields
  deriving DecidableEq

namespace SessionOptions

/-- The options that hold where no other are given. -/
def standard : SessionOptions := ⟨IndexFields.standard⟩

/-- Reports the first condition that options do not meet. -/
def validate (o : SessionOptions) : Except Error Unit := do
  verifyArgument (!o.fields.references.isEmpty) "references" "!fields.references.is_empty()"
  verifyArgument (!o.fields.packageName.isEmpty) "package_name" "!fields.package_name.is_empty()"
  verifyArgument (!o.fields.referencesCaseless.isEmpty) "references_case_insensitive"
    "!fields.references_case_insensitive.is_empty()"
  verifyArgument (o.fields.references != o.fields.packageName) "fields"
    "fields.references != fields.package_name"

/-- How options are shown. -/
def shown (o : SessionOptions) : String :=
  "SessionOptions \x7b fields: IndexFields \x7b references: " ++ Text.quoted o.fields.references
    ++ ", package_name: " ++ Text.quoted o.fields.packageName
    ++ ", references_case_insensitive: " ++ Text.quoted o.fields.referencesCaseless ++ " \x7d \x7d"

theorem validate_eq_ok_iff (o : SessionOptions) :
    o.validate = .ok () ↔
      o.fields.references ≠ "" ∧ o.fields.packageName ≠ "" ∧ o.fields.referencesCaseless ≠ "" ∧
        o.fields.references ≠ o.fields.packageName := by
  simp only [validate, verifyArgument, bind, Except.bind]
  by_cases h₁ : o.fields.references = "" <;> by_cases h₂ : o.fields.packageName = "" <;>
    by_cases h₃ : o.fields.referencesCaseless = "" <;>
    by_cases h₄ : o.fields.references = o.fields.packageName <;>
    simp_all

end SessionOptions

end UsageIndex
