import UsageIndex.Error
import UsageIndex.Pattern.Parse
import UsageIndex.Pattern.Search
import UsageIndex.Pattern.Size

/-!
# Compiled patterns

A pattern that has to match a whole text is put into a group between `^` and `$`, and the text is
searched for the result. The group holds a pattern that is well formed together. A text that closes
the group and opens another is compiled as it comes, and its parts are then tied to one end each.

Patterns that are nested too deeply or are too large are refused.

* **`compile_eq_ok_iff`**: what is compiled is what is a pattern and keeps to the limits.
-/

namespace UsageIndex.Pattern

/-- How deep a pattern may be nested. -/
def maxHeight : Nat := 250

/-- How large the automaton of a pattern may be: ten mebibytes. -/
def maxSize : Nat := 10 * (1 <<< 20)

/-- A pattern keeps to the limits: it is not nested too deeply, and it is not too large in either
direction. -/
def Tree.WithinLimits (t : Tree) : Prop :=
  t.height ≤ maxHeight ∧ automatonSize .forward (.ofTree t) ≤ maxSize
    ∧ automatonSize .backward (.ofTree t) ≤ maxSize

instance (t : Tree) : Decidable t.WithinLimits := inferInstanceAs (Decidable (_ ∧ _ ∧ _))

/-- The expression of a pattern that keeps to the limits. -/
def compileTree (t : Tree) : Except Fault Expr :=
  if t.WithinLimits then .ok t.expr
  else .error (if maxHeight < t.height then .nestedTooDeeply else .tooLarge)

/-- The expression of a text, under flags that hold from its start. -/
def compile (flags : Flags) (cs : List Char) : Except Fault Expr :=
  match parse flags cs with
  | .ok t => compileTree t
  | .error f => .error f

theorem compileTree_eq_ok_iff {t : Tree} {e : Expr} :
    compileTree t = .ok e ↔ t.WithinLimits ∧ t.expr = e := by
  unfold compileTree
  by_cases h : t.WithinLimits
  · simp [h]
  · simp [h]

/-- A text is compiled if it is a pattern that keeps to the limits. -/
theorem compile_eq_ok_iff {flags : Flags} {cs : List Char} {e : Expr} :
    compile flags cs = .ok e ↔ ∃ t, parse flags cs = .ok t ∧ t.WithinLimits ∧ t.expr = e := by
  unfold compile
  split
  · rename_i t ht
    simp [ht, compileTree_eq_ok_iff]
  · rename_i f hf
    simp [hf]

/-- A pattern in a group between the ends of the text. -/
def anchored (cs : List Char) : List Char :=
  ['^', '(', '?', ':'] ++ cs ++ [')', '$']

end UsageIndex.Pattern

namespace UsageIndex

/-- A pattern that is ready to be matched. -/
structure CompiledPattern where
  /-- The text that was compiled. -/
  source : String
  /-- Whether letters match up to case. -/
  caseless : Bool
  /-- What is searched for. -/
  expr : Pattern.Expr
  deriving DecidableEq

namespace CompiledPattern

/-- Whether a text matches. -/
def isMatch (p : CompiledPattern) (t : String) : Bool := p.expr.occursIn t.toList

/-- Compiles `pattern` so that it has to match a whole text. A fault is reported with the pattern
as it was given, `given`. -/
def compile (given : String) (pattern : List Char) (caseless : Bool) :
    Except Error CompiledPattern :=
  let source := Pattern.anchored pattern
  match Pattern.compile (Pattern.baseFlags caseless) source with
  | .ok e => .ok ⟨String.ofList source, caseless, e⟩
  | .error f => .error (.invalidPattern given f.message)

end CompiledPattern

end UsageIndex
