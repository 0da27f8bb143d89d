import UsageIndex.Proofs.Pattern.Joined
import UsageIndex.Proofs.Pattern.Steps

/-!
# Patterns between the ends of a text

A pattern that has to match a whole text is compiled in a group between `^` and `$`. Where the
pattern is one alone, the text in which it stands is read as its tree between the ends of the text,
whatever the pattern is built of.

* **`Outline.pushAll_inside`**: tokens are taken in inside other groups as they are alone.
* **`parse_anchored_of_parse`**: the tree of a whole pattern, from that of the pattern alone.
* **`parse_anchored`**: the same, from the parts that its text adds.
-/

namespace UsageIndex.Pattern

/-! ## Groups -/

namespace Outline

variable {o o' : Outline} {t : Token} {ts : List Token}

/-- An outline that stands inside the groups `base`. -/
def inside (o : Outline) (base : List Level) : Outline := { o with outer := o.outer ++ base }

theorem Steps.inside (h : o.Steps t o') (base : List Level) :
    (o.inside base).Steps t (o'.inside base) := by
  cases h with
  | part h => exact .part h
  | flags f => exact .flags f
  | opened h => exact .opened h
  | named h => exact .named h
  | closed h => exact .closed (congrArg (· ++ base) h)
  | barred => exact .barred
  | repeated hrep hparts => exact .repeated hrep hparts

/-- **Inside other groups** tokens are taken in as they are alone, if alone they can be. -/
theorem pushAll_inside (h : o.pushAll ts = .ok o') (base : List Level) :
    (o.inside base).pushAll ts = .ok (o'.inside base) := by
  induction ts generalizing o with
  | nil =>
    cases h
    rfl
  | cons t ts ih =>
    obtain ⟨o₁, ho₁, h₁⟩ := pushAll_cons_eq_ok_iff.mp h
    exact pushAll_cons_eq_ok_iff.mpr ⟨_, ho₁.inside base, ih h₁⟩

/-- The group that is opened first. -/
def root (o : Outline) : Level := o.outer.getLast?.getD o.level

theorem root_openGroup (o : Outline) (flags : Flags) (captures : Bool) :
    (o.openGroup flags captures).root = o.root := by
  unfold root openGroup
  rw [List.getLast?_cons, Option.getD_some]

/-- Whether the group that is opened first captures is told when it is opened. -/
theorem Steps.captures_root (h : o.Steps t o') : o'.root.captures = o.root.captures := by
  have hlevel : ∀ l : Level, l.captures = o.level.captures →
      ({ o with level := l } : Outline).root.captures = o.root.captures := by
    intro l hl
    unfold root
    cases o.outer.getLast? with
    | none => exact hl
    | some l' => rfl
  cases h with
  | part => exact hlevel _ rfl
  | flags => exact hlevel _ rfl
  | opened => exact congrArg _ (root_openGroup o _ _)
  | named => exact congrArg _ (root_openGroup o _ _)
  | @closed l outer houter =>
    unfold root
    rw [houter, List.getLast?_cons, Option.getD_some]
    cases outer.getLast? with
    | none => rfl
    | some l' => rfl
  | barred => exact hlevel _ rfl
  | repeated => exact hlevel _ rfl

theorem captures_root_of_pushAll (h : o.pushAll ts = .ok o') :
    o'.root.captures = o.root.captures := by
  induction ts generalizing o with
  | nil =>
    cases h
    rfl
  | cons t ts ih =>
    obtain ⟨o₁, ho₁, h₁⟩ := pushAll_cons_eq_ok_iff.mp h
    exact (ih h₁).trans ho₁.captures_root

theorem finish_eq_ok_iff {tree : Tree} :
    o.finish = .ok tree ↔ o.outer = [] ∧ o.level.tree = tree := by
  unfold finish
  split
  · rename_i h
    simp [h]
  · rename_i h
    simp [h]

end Outline

/-! ## Whole patterns -/

theorem treeOfTokens_eq_ok_iff {flags : Flags} {ts : List Token} {tree : Tree} :
    treeOfTokens flags ts = .ok tree ↔ ∃ o, (Outline.start flags).pushAll ts = .ok o ∧
      o.outer = [] ∧ o.level.tree = tree := by
  unfold treeOfTokens
  split
  · rename_i o ho
    simp [ho, Outline.finish_eq_ok_iff]
  · rename_i f hf
    simp [hf]

theorem parse_eq_ok_iff {flags : Flags} {cs : List Char} {tree : Tree} :
    parse flags cs = .ok tree ↔ ∃ ts, tokens cs = .ok ts ∧ treeOfTokens flags ts = .ok tree := by
  unfold parse
  split
  · rename_i ts hts
    simp [hts]
  · rename_i f hf
    simp [hf]

/-- A tree in a group between the ends of the text. -/
def enclosed (tree : Tree) : Tree := .seq [.edge .textStart, .group false tree, .edge .textEnd]

/-- What has been read of an anchored pattern before its group. -/
def anchor (caseless : Bool) : Level :=
  (Level.start (baseFlags caseless) false).add (.edge .textStart)

section

variable {cs : List Char} {tree : Tree}

theorem parse_anchored_of_tokens {caseless : Bool} {ts : List Token}
    (hts : tokens (cs ++ [')', '$']) = .ok (ts ++ [.close, .dollar]))
    (htree : treeOfTokens (baseFlags caseless) ts = .ok tree) :
    parse (baseFlags caseless) (anchored cs) = .ok (enclosed tree) := by
  obtain ⟨o, ho, houter, rfl⟩ := treeOfTokens_eq_ok_iff.mp htree
  have hcaptures : o.level.captures = false := by
    have hroot := Outline.captures_root_of_pushAll ho
    unfold Outline.root at hroot
    rwa [houter] at hroot
  have hstart : (Outline.start (baseFlags caseless)).pushAll [.caret, .openGroup FlagChange.none] =
      .ok ((Outline.start (baseFlags caseless)).inside [anchor caseless]) := rfl
  have hclose : (o.inside [anchor caseless]).pushAll [.close, .dollar] =
      .ok ⟨((anchor caseless).add (.group false o.level.tree)).add (.edge .textEnd), [],
        o.names⟩ := by
    unfold Outline.inside
    rw [houter, ← hcaptures]
    rfl
  have hpush := pushAll_append hstart (ts ++ [.close, .dollar])
  rw [pushAll_append (Outline.pushAll_inside ho _), hclose] at hpush
  have hall : tokens (anchored cs) =
      .ok ([.caret, .openGroup FlagChange.none] ++ (ts ++ [.close, .dollar])) :=
    tokens_cons rfl (tokens_cons rfl hts)
  exact parse_eq_ok_iff.mpr ⟨_, hall, treeOfTokens_eq_ok_iff.mpr ⟨_, hpush, rfl, rfl⟩⟩

/-- What stands behind a pattern is read as the end of its group and of the text. -/
theorem tokens_end : tokens [')', '$'] = .ok [.close, .dollar] :=
  tokens_cons rfl (tokens_cons rfl tokens_nil)

/-- **The tree of a whole pattern**, where the pattern is one alone. -/
theorem parse_anchored_of_parse {caseless : Bool} (h : parse (baseFlags caseless) cs = .ok tree) :
    parse (baseFlags caseless) (anchored cs) = .ok (enclosed tree) := by
  obtain ⟨ts, hts, htree⟩ := parse_eq_ok_iff.mp h
  exact parse_anchored_of_tokens (tokens_append hts (detached_cons (by decide)) tokens_end) htree

/-- The tree of a pattern with these parts in a group between the ends of the text. -/
def anchoredTree (parts : List Tree) : Tree :=
  .seq [.edge .textStart, .group false (.ofParts parts), .edge .textEnd]

/-- **The tree of a whole pattern**, where its text writes parts. -/
theorem parse_anchored {parts : List Tree} (h : Writes cs parts) :
    parse (baseFlags false) (anchored cs) = .ok (anchoredTree parts) := by
  obtain ⟨ts, hts, hadds⟩ := h
  obtain ⟨b, hb⟩ := hadds (Outline.start (baseFlags false)) rfl
  have hparts : ((Outline.start (baseFlags false)).extend parts b).level.parts = parts.reverse :=
    List.append_nil parts.reverse
  have htree : ((Outline.start (baseFlags false)).extend parts b).level.tree = .ofParts parts := by
    unfold Level.tree Level.lastAlternative
    rw [hparts, List.reverse_reverse]
    rfl
  exact parse_anchored_of_tokens (hts.tokens (detached_cons (by decide)) tokens_end)
    (treeOfTokens_eq_ok_iff.mpr ⟨_, hb, rfl, htree⟩)

end

end UsageIndex.Pattern
