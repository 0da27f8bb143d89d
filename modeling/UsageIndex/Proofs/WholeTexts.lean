import Mathlib.Data.List.Forall2
import UsageIndex.Proofs.Pattern.Folding
import UsageIndex.Proofs.RegexpQueries

/-!
# Whole texts

A regexp query is made of every text that is a pattern alone and keeps to the limits. It matches a
text if the pattern matches the text as a whole: neither an alternative nor an empty one at the top
of the pattern reaches the ends between which the pattern is put, and what assertions see at the
ends of the text is the same.

* **`Pattern.IsPattern`**: a text is a pattern alone. **`Pattern.IsPattern.parse`**: it then is one
  under all flags.
* **`Pattern.MatchesWhole`**: a pattern matches a text as a whole, which can be decided.
* **`createQuery_regexp_matches_whole`**: what the query of a pattern matches.
-/

namespace UsageIndex

namespace Pattern

/-! ## Flags -/

/-- Two groups have as many parts, and the last may be repeated in both or in neither. -/
structure Level.Alike (l l' : Level) : Prop where
  length : l.parts.length = l'.parts.length
  repeatable : l.repeatable = l'.repeatable

/-- Two outlines differ only in their flags and in what these make of the parts. -/
structure Outline.Alike (o o' : Outline) : Prop where
  level : o.level.Alike o'.level
  outer : List.Forall₂ Level.Alike o.outer o'.outer
  names : o.names = o'.names

theorem Level.Alike.add {l l' : Level} (h : l.Alike l') (t t' : Tree) :
    (l.add t).Alike (l'.add t') := ⟨congrArg (· + 1) h.length, rfl⟩

section

variable {o o' p : Outline} {t : Token} {ts : List Token}

theorem Outline.Alike.step (h : o.Alike o') (hp : o.Steps t p) :
    ∃ p', o'.Steps t p' ∧ p.Alike p' := by
  have houter : List.Forall₂ Level.Alike (o.level :: o.outer) (o'.level :: o'.outer) :=
    .cons h.level h.outer
  cases hp with
  | part hpart =>
    obtain ⟨q, hq⟩ : ∃ q, t.part? o'.level.flags = some q := by
      rw [← Option.isSome_iff_exists, Token.isSome_part? _ o.level.flags, hpart, Option.isSome_some]
    exact ⟨_, .part hq, h.level.add _ _, h.outer, h.names⟩
  | flags f =>
    exact ⟨_, .flags f, ⟨congrArg (· + 1) h.level.length, rfl⟩, h.outer, h.names⟩
  | opened hopened =>
    obtain ⟨⟨flags, captures⟩, hopened'⟩ : ∃ g, t.opened? o'.level.flags = some g := by
      rw [← Option.isSome_iff_exists, Token.isSome_opened? _ o.level.flags, hopened,
        Option.isSome_some]
    exact ⟨_, .opened hopened', ⟨rfl, rfl⟩, houter, h.names⟩
  | named hname =>
    rw [h.names] at hname ⊢
    exact ⟨_, .named hname, ⟨rfl, rfl⟩, houter, rfl⟩
  | closed hclosed =>
    have hout := h.outer
    rw [hclosed] at hout
    obtain ⟨l', outer', hl, htail, hclosed'⟩ := List.forall₂_cons_left_iff.mp hout
    exact ⟨_, .closed hclosed', hl.add _ _, htail, h.names⟩
  | barred => exact ⟨_, .barred, ⟨rfl, rfl⟩, h.outer, h.names⟩
  | repeated hrep hparts =>
    have hlength := h.level.length
    rw [hparts, List.length_cons] at hlength
    obtain ⟨q, qs, hparts'⟩ := List.exists_cons_of_length_eq_add_one hlength.symm
    rw [hparts', List.length_cons] at hlength
    exact ⟨_, .repeated (h.level.repeatable.symm.trans hrep) hparts',
      ⟨hlength, h.level.repeatable⟩, h.outer, h.names⟩

theorem Outline.Alike.pushAll (h : o.Alike o') (hp : o.pushAll ts = .ok p) :
    ∃ p', o'.pushAll ts = .ok p' ∧ p.Alike p' := by
  induction ts generalizing o o' with
  | nil =>
    cases hp
    exact ⟨o', rfl, h⟩
  | cons t ts ih =>
    obtain ⟨q, hq, hts⟩ := Outline.pushAll_cons_eq_ok_iff.mp hp
    obtain ⟨q', hq', hal⟩ := h.step hq
    obtain ⟨p', hp', hal'⟩ := ih hal hts
    exact ⟨p', Outline.pushAll_cons_eq_ok_iff.mpr ⟨q', hq', hp'⟩, hal'⟩

end

section

variable {cs : List Char}

/-- A text that is read under some flags is read under all, though not as the same tree. -/
theorem exists_parse {flags : Flags} {tree : Tree} (h : parse flags cs = .ok tree)
    (flags' : Flags) : ∃ tree', parse flags' cs = .ok tree' := by
  obtain ⟨ts, hts, htree⟩ := parse_eq_ok_iff.mp h
  obtain ⟨o, ho, houter, -⟩ := treeOfTokens_eq_ok_iff.mp htree
  have hstart : (Outline.start flags).Alike (Outline.start flags') := ⟨⟨rfl, rfl⟩, .nil, rfl⟩
  obtain ⟨o', ho', hal⟩ := hstart.pushAll ho
  have houter' := hal.outer
  rw [houter, List.forall₂_nil_left_iff] at houter'
  exact ⟨_, parse_eq_ok_iff.mpr ⟨ts, hts, treeOfTokens_eq_ok_iff.mpr ⟨o', ho', houter', rfl⟩⟩⟩

/-- A text is a pattern alone. -/
def IsPattern (cs : List Char) : Prop :=
  ∃ tree, parse { caseless := false, dotAll := true, multiLine := false } cs = .ok tree

/-- **A pattern is one under all flags**, though not with the same tree. -/
theorem IsPattern.parse (h : IsPattern cs) (flags : Flags) :
    ∃ tree, Pattern.parse flags cs = .ok tree := by
  obtain ⟨tree, htree⟩ := h
  exact exists_parse htree flags

instance : Decidable (IsPattern cs) :=
  match h : parse { caseless := false, dotAll := true, multiLine := false } cs with
  | .ok tree => isTrue ⟨tree, h⟩
  | .error f => isFalse fun ⟨tree, htree⟩ => by simp [h] at htree

/-! ## Matches -/

/-- A pattern matches a text as a whole, from its first character to its last. The dot matches line
breaks, and the assertions at line ends hold at the ends of the text alone. Up to case, its sets
hold what is equal up to case to one of their characters. -/
def MatchesWhole (caseless : Bool) (cs t : List Char) : Prop :=
  ∃ tree, parse { caseless := caseless, dotAll := true, multiLine := false } cs = .ok tree ∧
    tree.expr.Fills t

instance (caseless : Bool) (t : List Char) : Decidable (MatchesWhole caseless cs t) :=
  match h : parse { caseless := caseless, dotAll := true, multiLine := false } cs with
  | .ok tree => decidable_of_iff ((enclosed tree).expr.occursIn t = true) <| by
      rw [Expr.occursIn_iff, occurs_enclosed]
      simp [MatchesWhole, h]
  | .error f => isFalse fun ⟨tree, htree, _⟩ => by simp [h] at htree

example : MatchesWhole true ['a', '.', '|', 'b'] ['A', '\n'] := by decide +kernel

/-- Between the ends of the text, a text keeps to the limits if it is a pattern. -/
def KeepsToLimits (caseless : Bool) (cs : List Char) : Prop :=
  ∀ tree, parse { caseless := caseless, dotAll := true, multiLine := false } (anchored cs) =
    .ok tree → tree.WithinLimits

instance (caseless : Bool) : Decidable (KeepsToLimits caseless cs) :=
  match h : parse { caseless := caseless, dotAll := true, multiLine := false } (anchored cs) with
  | .ok tree => decidable_of_iff tree.WithinLimits (by simp [KeepsToLimits, h])
  | .error f => isTrue fun tree htree => by simp [h] at htree

end

end Pattern

/-- **The query of a pattern.** It is made if the text is a pattern alone and keeps to the limits,
and it matches what the pattern matches as a whole. -/
theorem PatternQuery.ofPattern_matches_whole {t : Term} {caseless : Bool}
    (hpattern : Pattern.IsPattern t.text.toList)
    (hlimits : Pattern.KeepsToLimits caseless t.text.toList) :
    ∃ p, ofPattern t caseless = .ok p ∧ p.term = t ∧
      ∀ u, p.isMatch u = true ↔ Pattern.MatchesWhole caseless t.text.toList u.toList := by
  obtain ⟨tree, htree⟩ := hpattern.parse
    { caseless := caseless, dotAll := true, multiLine := false }
  have hanchored := Pattern.parse_anchored_of_parse htree
  have hcompile : Pattern.compile (Pattern.baseFlags caseless) (Pattern.anchored t.text.toList) =
      .ok (Pattern.enclosed tree).expr :=
    Pattern.compile_eq_ok_iff.mpr ⟨_, hanchored, hlimits _ hanchored, rfl⟩
  refine ⟨_, ofPattern_eq_ok_iff.mpr ⟨_, hcompile, rfl⟩, rfl, fun u => ?_⟩
  have hmatch : (Pattern.enclosed tree).expr.occursIn u.toList = true ↔
      tree.expr.Fills u.toList :=
    (Pattern.Expr.occursIn_iff _ _).trans (Pattern.occurs_enclosed tree u.toList)
  refine hmatch.trans ⟨fun h => ⟨tree, htree, h⟩, ?_⟩
  rintro ⟨tree', htree', h⟩
  rw [htree] at htree'
  cases htree'
  exact h

/-- **Regexp queries match whole texts.** A query is made of every text that is a pattern alone and
keeps to the limits. It matches the texts that the pattern matches from their first character to
their last, up to case if that is asked for, and then it is a query over the field of the lower case
copies. -/
theorem createQuery_regexp_matches_whole {field caselessField value : String} {kind : QueryKind}
    (hfield : field ≠ "") (hcaseless : caselessField ≠ "")
    (hkind : kind = .regexp ∨ kind = .caselessRegexp)
    (hpattern : Pattern.IsPattern value.toList)
    (hlimits : Pattern.KeepsToLimits (kind = .caselessRegexp) value.toList) :
    ∃ p, createQuery field caselessField value kind = .ok (.regexp p) ∧
      p.term = ⟨if kind = .regexp then field else caselessField, value⟩ ∧
      ∀ t, p.isMatch t = true ↔
        Pattern.MatchesWhole (kind = .caselessRegexp) value.toList t.toList := by
  rcases hkind with rfl | rfl
  · obtain ⟨p, hp, hterm, hmatch⟩ := PatternQuery.ofPattern_matches_whole
      (t := ⟨field, value⟩) hpattern hlimits
    exact ⟨p, createQuery_regexp hfield hcaseless hp, hterm, hmatch⟩
  · obtain ⟨p, hp, hterm, hmatch⟩ := PatternQuery.ofPattern_matches_whole
      (t := ⟨caselessField, value⟩) hpattern hlimits
    exact ⟨p, createQuery_eq_ok_iff.mpr ⟨hfield, hcaseless, p, hp, rfl⟩, hterm, hmatch⟩

/-- A letter up to case, or nothing. -/
theorem keepsToLimits_caseless_a : Pattern.KeepsToLimits true ['a', '|'] := by
  have hparse : Pattern.parse { caseless := true, dotAll := true, multiLine := false }
      ['a', '|'] = .ok (.alt [.one (.caseless (.single 'a')) 0, .empty]) :=
    Pattern.parse_eq_ok_iff.mpr
      ⟨_, Pattern.tokens_cons rfl (Pattern.tokens_cons rfl Pattern.tokens_nil), rfl⟩
  intro tree htree
  cases (Pattern.parse_anchored_of_parse hparse).symm.trans htree
  unfold Pattern.Tree.WithinLimits
  simp only [Pattern.enclosed, Pattern.Form.ofTree, Pattern.Form.ofTrees,
    Pattern.runs_caseless_a]
  decide +kernel

/-- A pattern of two alternatives and an empty one, the second with a group that is repeated and an
end of the text inside, and a letter up to case or nothing. A text of which an alternative matches a
part does not match. -/
theorem createQuery_regexp_alternatives :
    (∃ p, createQuery "f" "g" "a|(b$|c)+|" .regexp = .ok (.regexp p) ∧
      p.term = ⟨"f", "a|(b$|c)+|"⟩ ∧ p.isMatch "a" = true ∧ p.isMatch "ccb" = true ∧
        p.isMatch "" = true ∧ p.isMatch "ab" = false ∧ p.isMatch "bc" = false) ∧
    ∃ p, createQuery "f" "g" "a|" .caselessRegexp = .ok (.regexp p) ∧ p.term = ⟨"g", "a|"⟩ ∧
      p.isMatch "A" = true ∧ p.isMatch "" = true ∧ p.isMatch "AA" = false := by
  constructor
  · have hpattern : Pattern.IsPattern "a|(b$|c)+|".toList := by decide +kernel
    obtain ⟨p, hp, hterm, hmatch⟩ := createQuery_regexp_matches_whole
      (by decide : "f" ≠ "") (by decide : "g" ≠ "") (.inl rfl) hpattern (by decide +kernel)
    refine ⟨p, hp, hterm, (hmatch _).mpr (by decide +kernel), (hmatch _).mpr (by decide +kernel),
      (hmatch _).mpr (by decide +kernel), ?_, ?_⟩
    · rw [← Bool.not_eq_true, hmatch]
      decide +kernel
    · rw [← Bool.not_eq_true, hmatch]
      decide +kernel
  · have hpattern : Pattern.IsPattern "a|".toList := by decide +kernel
    obtain ⟨p, hp, hterm, hmatch⟩ := createQuery_regexp_matches_whole
      (by decide : "f" ≠ "") (by decide : "g" ≠ "") (.inr rfl) hpattern keepsToLimits_caseless_a
    refine ⟨p, hp, hterm, (hmatch _).mpr (by decide +kernel), (hmatch _).mpr (by decide +kernel),
      ?_⟩
    rw [← Bool.not_eq_true, hmatch]
    decide +kernel

end UsageIndex
