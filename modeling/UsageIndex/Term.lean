import UsageIndex.Ordered.Set

/-!
# Terms

A term is a text in a field of the index. Terms are ordered by field and then by text, both by code
point; this is the order of the dictionary.

* **`Text.startsWith`**: the text begins with another.
-/

namespace UsageIndex.Text

/-- Whether a text begins with another. -/
def startsWith (s p : String) : Bool := p.toList.isPrefixOf s.toList

theorem startsWith_iff {s p : String} : startsWith s p = true ↔ p.toList <+: s.toList :=
  List.isPrefixOf_iff_prefix

@[simp] theorem startsWith_empty (s : String) : startsWith s "" = true := by
  rw [startsWith_iff]
  exact List.nil_prefix

end UsageIndex.Text

namespace UsageIndex

/-- A text in a field of the index. -/
structure Term where
  field : String
  text : String
  deriving DecidableEq

namespace Term

/-- The term of the same field with another text. -/
def withText (t : Term) (text : String) : Term := ⟨t.field, text⟩

/-- How a term is shown. -/
def shown (t : Term) : String := t.field ++ ":" ++ t.text

instance : LT Term := ⟨fun t u => t.field < u.field ∨ (t.field = u.field ∧ t.text < u.text)⟩

theorem lt_def {t u : Term} :
    t < u ↔ t.field < u.field ∨ (t.field = u.field ∧ t.text < u.text) := Iff.rfl

instance (t u : Term) : Decidable (t < u) := decidable_of_iff _ lt_def.symm

instance : StrictTotal Term where
  irrefl t h := by
    rcases h with h | ⟨-, h⟩
    · exact StrictTotal.irrefl _ h
    · exact StrictTotal.irrefl _ h
  trans {t u v} h h' := by
    rcases h with h | ⟨e, h⟩ <;> rcases h' with h' | ⟨e', h'⟩
    · exact Or.inl (StrictTotal.trans h h')
    · exact Or.inl (e' ▸ h)
    · exact Or.inl (e ▸ h')
    · exact Or.inr ⟨e.trans e', StrictTotal.trans h h'⟩
  total t u := by
    rcases StrictTotal.total t.field u.field with h | e | h
    · exact Or.inl (Or.inl h)
    · rcases StrictTotal.total t.text u.text with h | e' | h
      · exact Or.inl (Or.inr ⟨e, h⟩)
      · refine Or.inr (Or.inl ?_)
        cases t; cases u; cases e; cases e'; rfl
      · exact Or.inr (Or.inr (Or.inr ⟨e.symm, h⟩))
    · exact Or.inr (Or.inr (Or.inl h))

end Term

end UsageIndex
