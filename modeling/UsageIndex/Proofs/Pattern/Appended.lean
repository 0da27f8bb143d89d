import UsageIndex.Proofs.WholeTexts

/-!
# Text behind a pattern

Text that is put behind a pattern becomes a part of its last alternative, under the flags that hold
there. So the earlier alternatives are not followed by it, and an assertion at the end of the last
one is about the added text, where before it was about the end of the whole.

* **`lastLevel?`**: what has been read at the end of a pattern.
* **`matchesWhole_append`**: what a pattern matches as a whole with parts behind it.
* **`Expr.settled`**: what follows an expression does not matter to it, by its form
  (`Expr.Spans.of_settled`). **`matchesWhole_append_of_settled`**: what a single alternative that is
  settled matches with parts behind it.
-/

namespace UsageIndex.Pattern

/-! ## What expressions see behind them -/

/-- Whether an assertion is about the character behind a place. -/
def Assertion.looksAhead : Assertion → Bool
  | textStart | lineStart | wordStartHalf => false
  | textEnd | lineEnd | wordEdge | notWordEdge | wordStart | wordEnd | wordEndHalf => true

theorem Assertion.holds_congr {x : Assertion} (h : x.looksAhead = false)
    (before after after' : Option Char) : x.holds before after = x.holds before after' := by
  cases x <;> first | rfl | cases h

namespace Expr

/-- Whether an expression consumes at least one character, by its form. -/
def consumes : Expr → Bool
  | empty => false
  | edge _ => false
  | one _ => true
  | seq p q => p.consumes || q.consumes
  | alt p q => p.consumes && q.consumes
  | rep p lo _ => decide (0 < lo) && p.consumes

/-- Whether what follows an expression does not matter to it, by its form: none of the assertions
that may stand at its end looks ahead. -/
def settled : Expr → Bool
  | empty => true
  | edge x => !x.looksAhead
  | one _ => true
  | seq p q => q.settled && (p.settled || q.consumes)
  | alt p q => p.settled && q.settled
  | rep p _ _ => p.settled

namespace Spans

variable {e : Expr} {b u a a' : List Char}

theorem ne_nil_of_consumes (h : Spans e b u a) (he : e.consumes = true) : u ≠ [] := by
  induction h with
  | empty | edge => cases he
  | one => exact List.cons_ne_nil _ _
  | seq _ _ ihp ihq =>
    rw [ne_eq, List.append_eq_nil_iff, not_and_or]
    exact (Bool.or_eq_true_iff.mp he).imp ihp ihq
  | altLeft _ ih => exact ih (Bool.and_eq_true_iff.mp he).1
  | altRight _ ih => exact ih (Bool.and_eq_true_iff.mp he).2
  | repDone => cases he
  | repMore _ _ _ ih =>
    rw [ne_eq, List.append_eq_nil_iff, not_and_or]
    exact .inl (ih (Bool.and_eq_true_iff.mp he).2)

/-- Of what follows, an expression sees the first character only. -/
theorem of_head_eq (h : Spans e b u a) (ha : a.head? = a'.head?) : Spans e b u a' := by
  have happend : ∀ {v a a' : List Char}, a.head? = a'.head? →
      (v ++ a).head? = (v ++ a').head? := by
    intro v a a' ha
    rw [List.head?_append, List.head?_append, ha]
  induction h generalizing a' with
  | empty => exact .empty
  | edge hx => exact .edge (ha ▸ hx)
  | one hc => exact .one hc
  | seq _ _ ihp ihq => exact .seq (ihp (happend ha)) (ihq ha)
  | altLeft _ ih => exact .altLeft (ih ha)
  | altRight _ ih => exact .altRight (ih ha)
  | repDone => exact .repDone
  | repMore hhi _ _ ihp ihq => exact .repMore hhi (ihp (happend ha)) (ihq ha)

/-- **What follows does not matter** to an expression that is settled. -/
theorem of_settled (h : Spans e b u a) (he : e.settled = true) (a' : List Char) :
    Spans e b u a' := by
  induction h generalizing a' with
  | empty => exact .empty
  | @edge x b a hx =>
    have hahead : x.looksAhead = false := by simpa [settled] using he
    exact .edge (Assertion.holds_congr hahead _ a.head? a'.head? ▸ hx)
  | one hc => exact .one hc
  | @seq p q b u v a hp hq ihp ihq =>
    obtain ⟨hsettled, hfirst⟩ := Bool.and_eq_true_iff.mp he
    refine .seq ?_ (ihq hsettled a')
    rcases Bool.or_eq_true_iff.mp hfirst with hsettled | hconsumes
    · exact ihp hsettled _
    · -- the second expression stands between the first and what follows
      obtain ⟨c, v, rfl⟩ := List.exists_cons_of_ne_nil (hq.ne_nil_of_consumes hconsumes)
      exact hp.of_head_eq rfl
  | altLeft _ ih => exact .altLeft (ih (Bool.and_eq_true_iff.mp he).1 a')
  | altRight _ ih => exact .altRight (ih (Bool.and_eq_true_iff.mp he).2 a')
  | repDone => exact .repDone
  | repMore hhi _ _ ihp ihq => exact .repMore hhi (ihp he _) (ihq he a')

end Spans

end Expr

/-! ## What has been read at the end -/

/-- What has been read of a pattern when all of its text is taken in and no group is open. -/
def lastLevel? (flags : Flags) (cs : List Char) : Option Level :=
  match tokens cs with
  | .ok ts =>
    match (Outline.start flags).pushAll ts with
    | .ok o => if o.outer.isEmpty then some o.level else none
    | .error _ => none
  | .error _ => none

theorem lastLevel?_eq_some_iff {flags : Flags} {cs : List Char} {l : Level} :
    lastLevel? flags cs = some l ↔ ∃ ts o, tokens cs = .ok ts ∧
      (Outline.start flags).pushAll ts = .ok o ∧ o.outer = [] ∧ o.level = l := by
  unfold lastLevel?
  cases tokens cs with
  | error f => simp
  | ok ts =>
    cases ho : (Outline.start flags).pushAll ts with
    | error f => simp [ho]
    | ok o => simp [ho]

theorem parse_eq_ok_iff_lastLevel? {flags : Flags} {cs : List Char} {tree : Tree} :
    parse flags cs = .ok tree ↔ ∃ l, lastLevel? flags cs = some l ∧ l.tree = tree := by
  simp only [parse_eq_ok_iff, treeOfTokens_eq_ok_iff, lastLevel?_eq_some_iff]
  constructor
  · rintro ⟨ts, hts, o, ho, houter, htree⟩
    exact ⟨_, ⟨ts, o, hts, ho, houter, rfl⟩, htree⟩
  · rintro ⟨_, ⟨ts, o, hts, ho, houter, rfl⟩, htree⟩
    exact ⟨ts, hts, o, ho, houter, htree⟩

/-- What alternatives consume. -/
theorem spans_ofAlternatives {ts : List Tree} (hts : ts ≠ []) {b w a : List Char} :
    (Tree.ofAlternatives ts).expr.Spans b w a ↔ ∃ t ∈ ts, t.expr.Spans b w a := by
  have hlist : ∀ t us, (Tree.exprOfAlternatives (t :: us)).Spans b w a ↔
      ∃ t' ∈ t :: us, t'.expr.Spans b w a := by
    intro t us
    induction us generalizing t with
    | nil => simp [Tree.exprOfAlternatives]
    | cons u us ih =>
      have hcons : Tree.exprOfAlternatives (t :: u :: us) =
          .alt t.expr (Tree.exprOfAlternatives (u :: us)) := by
        rw [Tree.exprOfAlternatives]
        exact fun h => List.cons_ne_nil u us h
      simp only [hcons, Expr.spans_alt, ih u, List.exists_mem_cons_iff]
  obtain ⟨t, us, rfl⟩ := List.exists_cons_of_ne_nil hts
  rw [← hlist]
  unfold Tree.ofAlternatives
  split
  · rename_i heq
    cases heq
    rw [Tree.exprOfAlternatives]
  · rw [Tree.expr]

/-- A group consumes what its complete alternatives do and what the last one does. -/
theorem Level.spans_tree {l : Level} {b w a : List Char} : l.tree.expr.Spans b w a ↔
    (∃ t ∈ l.alternatives, t.expr.Spans b w a) ∨ l.lastAlternative.expr.Spans b w a := by
  have hne : l.alternatives.reverse ++ [l.lastAlternative] ≠ [] := by simp
  unfold Level.tree
  rw [spans_ofAlternatives hne]
  simp only [List.mem_append, List.mem_reverse, List.mem_singleton]
  constructor
  · rintro ⟨t, ht | rfl, h⟩
    · exact .inl ⟨t, ht, h⟩
    · exact .inr h
  · rintro (⟨t, ht, h⟩ | h)
    · exact ⟨t, .inl ht, h⟩
    · exact ⟨_, .inr rfl, h⟩

section

variable {caseless : Bool} {cs ds t : List Char} {l : Level}

theorem matchesWhole_iff (hl : lastLevel? (baseFlags caseless) cs = some l) :
    MatchesWhole caseless cs t ↔
      (∃ e ∈ l.alternatives, e.expr.Fills t) ∨ l.lastAlternative.expr.Fills t := by
  have hparse : ∀ tree, parse (baseFlags caseless) cs = .ok tree ↔ l.tree = tree := by
    intro tree
    simp [parse_eq_ok_iff_lastLevel?, hl]
  unfold MatchesWhole
  simp only [← baseFlags.eq_def, hparse, exists_eq_left']
  exact Level.spans_tree

theorem exists_lastLevel (h : IsPattern cs) (flags : Flags) :
    ∃ l, lastLevel? flags cs = some l := by
  obtain ⟨tree, htree⟩ := h.parse flags
  obtain ⟨l, hl, -⟩ := parse_eq_ok_iff_lastLevel?.mp htree
  exact ⟨l, hl⟩

/-! ## Parts behind a pattern -/

/-- Tokens that add a part each add their parts. -/
theorem pushAll_parts {o : Outline} {ts : List Token} {parts : List Tree}
    (h : List.Forall₂ (fun t p => t.part? o.level.flags = some p) ts parts) :
    ∃ b, o.pushAll ts = .ok (o.extend parts b) := by
  generalize hflags : o.level.flags = flags at h
  induction h generalizing o with
  | nil => exact ⟨o.level.repeatable, rfl⟩
  | @cons t p ts parts ht _ ih =>
    rw [← hflags] at ht
    obtain ⟨b, hb⟩ := ih (o := o.add p) hflags
    have hadd : o.add p = o.extend [p] true := rfl
    rw [hadd, Outline.extend_extend] at hb
    exact ⟨b, Outline.pushAll_cons_eq_ok_iff.mpr ⟨_, .part ht, hadd ▸ hb⟩⟩

variable {us : List Token} {parts : List Tree}
  (hl : lastLevel? (baseFlags caseless) cs = some l) (hdetached : Detached ds)
  (hds : tokens ds = .ok us)
  (hparts : List.Forall₂ (fun t p => t.part? l.flags = some p) us parts)
include hl hdetached hds hparts

/-- Parts behind a pattern are added to its last alternative. -/
theorem lastLevel?_append : ∃ b, lastLevel? (baseFlags caseless) (cs ++ ds) =
    some { l with parts := parts.reverse ++ l.parts, repeatable := b } := by
  obtain ⟨ts, o, hts, ho, houter, rfl⟩ := lastLevel?_eq_some_iff.mp hl
  obtain ⟨b, hb⟩ := pushAll_parts hparts
  refine ⟨b, lastLevel?_eq_some_iff.mpr ⟨_, o.extend parts b, tokens_append hts hdetached hds, ?_,
    houter, rfl⟩⟩
  rw [pushAll_append ho, hb]

/-- **Parts behind a pattern.** An earlier alternative of the pattern matches without them; the last
one is followed by what they consume. -/
theorem matchesWhole_append : MatchesWhole caseless (cs ++ ds) t ↔
    (∃ e ∈ l.alternatives, e.expr.Fills t) ∨ ∃ n s, t = n ++ s ∧
      l.lastAlternative.expr.Spans [] n s ∧
        (Tree.exprOfParts parts).Spans n.reverse s [] := by
  obtain ⟨b, hlast⟩ := lastLevel?_append hl hdetached hds hparts
  rw [matchesWhole_iff hlast]
  refine or_congr_right ?_
  unfold Expr.Fills Level.lastAlternative
  rw [spans_ofParts, List.reverse_append, List.reverse_reverse, spans_exprOfParts_append]
  simp only [List.append_nil, spans_ofParts]

/-- **Parts behind each match.** A pattern of one alternative to which it does not matter what
follows is followed by what the parts consume. -/
theorem matchesWhole_append_of_settled (hsingle : l.alternatives = [])
    (hsettled : l.lastAlternative.expr.settled = true) :
    MatchesWhole caseless (cs ++ ds) t ↔ ∃ n s, t = n ++ s ∧ MatchesWhole caseless cs n ∧
      (Tree.exprOfParts parts).Spans n.reverse s [] := by
  have hno : ∀ {p : Tree → Prop}, ¬ ∃ e ∈ l.alternatives, p e := by
    rintro p ⟨e, he, -⟩
    rw [hsingle] at he
    cases he
  have hfills : ∀ n s, l.lastAlternative.expr.Spans [] n s ↔ MatchesWhole caseless cs n := by
    intro n s
    rw [matchesWhole_iff hl, or_iff_right hno]
    exact ⟨fun h => h.of_settled hsettled [], fun h => h.of_settled hsettled s⟩
  rw [matchesWhole_append hl hdetached hds hparts, or_iff_right hno]
  simp only [hfills]

end

end UsageIndex.Pattern
