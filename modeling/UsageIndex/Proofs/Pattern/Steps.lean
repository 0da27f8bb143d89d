import UsageIndex.Pattern.Parse

/-!
# What tokens do

A token adds a part to the innermost group, changes its flags, opens, closes or divides a group, or
repeats the last part. Everything that is preserved while a pattern is read is told from this.

* **`Outline.Steps`**: what a token does to an outline. **`Outline.push_eq_ok_iff`**: it is taken in
  exactly if it does one of these.
* **`Outline.pushAll_cons_eq_ok_iff`**: tokens are taken in one after the other.
-/

namespace UsageIndex.Pattern

/-- The part that a token adds where some flags hold. -/
def Token.part? (flags : Flags) : Token → Option Tree
  | .char c => some (.one ((CharSet.single c).foldIf flags.caseless) 0)
  | .anyChar => some (.one (if flags.dotAll then .all else .compl (.single '\n')) 0)
  | .shorthand k negated => some (.one ((CharSet.shorthand k).negateIf negated) 0)
  | .bracket p => some (.one (p.toSet flags.caseless) p.height)
  | .edge a => some (.edge a)
  | .caret => some (.edge (if flags.multiLine then .lineStart else .textStart))
  | .dollar => some (.edge (if flags.multiLine then .lineEnd else .textEnd))
  | _ => none

/-- Which tokens add a part does not depend on the flags. -/
theorem Token.isSome_part? (flags flags' : Flags) (t : Token) :
    (t.part? flags).isSome = (t.part? flags').isSome := by
  cases t <;> rfl

/-- The flags in a group without a name that a token opens, and whether the group captures. -/
def Token.opened? (flags : Flags) : Token → Option (Flags × Bool)
  | .openCapture none => some (flags, true)
  | .openGroup f => some (flags.change f, false)
  | _ => none

/-- Which tokens open a group does not depend on the flags. -/
theorem Token.isSome_opened? (flags flags' : Flags) (t : Token) :
    (t.opened? flags).isSome = (t.opened? flags').isSome := by
  cases t with
  | openCapture name => cases name <;> rfl
  | _ => rfl

namespace Outline

/-- What a token does to an outline. -/
inductive Steps (o : Outline) : Token → Outline → Prop where
  | part {t : Token} {p : Tree} : t.part? o.level.flags = some p → Steps o t (o.add p)
  | flags (f : FlagChange) : Steps o (.setFlags f) { o with level := o.level.setFlags f }
  | opened {t : Token} {flags : Flags} {captures : Bool} :
      t.opened? o.level.flags = some (flags, captures) → Steps o t (o.openGroup flags captures)
  | named {name : List Char} : name ∉ o.names → Steps o (.openCapture (some name))
      { o.openGroup o.level.flags true with names := name :: o.names }
  | closed {l : Level} {outer : List Level} : o.outer = l :: outer → Steps o .close
      { o with level := l.add (.group o.level.captures o.level.tree), outer := outer }
  | barred : Steps o .bar { o with level := o.level.bar }
  | repeated {lo : Nat} {hi : Option Nat} {p : Tree} {ps : List Tree} :
      o.level.repeatable = true → o.level.parts = p :: ps → Steps o (.repetition lo hi)
        { o with level := { o.level with parts := .rep p lo hi :: ps } }

variable {o o' : Outline} {t : Token} {ts : List Token}

theorem steps_of_push (h : o.push t = .ok o') : o.Steps t o' := by
  cases t with
  | char | anyChar | shorthand | bracket | edge | caret | dollar =>
    cases h
    exact .part rfl
  | openCapture name =>
    cases name with
    | none =>
      cases h
      exact .opened rfl
    | some name =>
      unfold push at h
      simp only at h
      split at h <;> cases h
      exact .named ‹_›
  | openGroup f =>
    cases h
    exact .opened rfl
  | setFlags f =>
    cases h
    exact .flags f
  | close =>
    unfold push at h
    simp only at h
    split at h <;> cases h
    exact .closed ‹_›
  | bar =>
    cases h
    exact .barred
  | repetition lo hi =>
    unfold push Level.rep at h
    simp only at h
    split at h
    · rename_i l hl
      split at hl <;> cases hl
      cases h
      exact .repeated ‹_› ‹_›
    · cases h

theorem push_of_steps (h : o.Steps t o') : o.push t = .ok o' := by
  cases h with
  | part h =>
    cases t <;> cases h <;> rfl
  | flags => rfl
  | opened h =>
    cases t with
    | openCapture name =>
      cases name <;> cases h
      rfl
    | openGroup f =>
      cases h
      rfl
    | _ => cases h
  | named h => exact if_neg h
  | closed h =>
    unfold push
    simp only [h]
  | barred => rfl
  | repeated hrep hparts =>
    unfold push Level.rep
    simp only [hrep, hparts]

/-- **A token is taken in** exactly if it does one of these. -/
theorem push_eq_ok_iff : o.push t = .ok o' ↔ o.Steps t o' := ⟨steps_of_push, push_of_steps⟩

/-- **Tokens are taken in** one after the other. -/
theorem pushAll_cons_eq_ok_iff :
    o.pushAll (t :: ts) = .ok o' ↔ ∃ o₁, o.Steps t o₁ ∧ o₁.pushAll ts = .ok o' := by
  simp only [← push_eq_ok_iff]
  rw [pushAll]
  cases o.push t with
  | ok o₁ => simp
  | error f => simp

end Outline

end UsageIndex.Pattern
