import Mathlib.Data.List.TakeWhile
import UsageIndex.DocSet
import UsageIndex.Proofs.SetMembers

/-!
# The algebra of sets of documents

However a set of documents is made, it is the set of the documents below its span that the way it
was made describes, and nothing else of how it was made is left in it.

* **`DocSet.Builder.run_spec`**: what a builder holds after any calls, whether they succeed or not.
* **`DocSet.Recipe`**: how a set is made, and what that describes (`DocSet.Recipe.Describes`).
* **`DocSet.Recipe.eval_spec`**, **`DocSet.Recipe.over_of_eval`**: a recipe gives a set exactly if
  all of its sets are of one span, and the set holds what the recipe describes.
* **`DocSet.recipes_make_subsets`**: sets of documents are the subsets of their spans.
-/

namespace UsageIndex.DocSet

/-! ## Builders -/

namespace Builder

/-- What a builder is asked to mark. -/
inductive Call where
  | set (d : Nat)
  | extend (docs : List Nat)
  | tryExtend (docs : List Nat)

/-- The documents that a call is to mark. -/
def Call.docs : Call → List Nat
  | set d => [d]
  | extend docs => docs
  | tryExtend docs => docs

/-- The documents that a call marks over a span: those before the first that is out of span. -/
def Call.marks (span : Nat) (c : Call) : List Nat := c.docs.takeWhile fun d => decide (d < span)

/-- What becomes of a builder by a call, whether it succeeds or not. -/
def after (b : Builder) : Call → Builder
  | .set d =>
    match b.set d with
    | .ok (b', _) => b'
    | .error _ => b
  | .extend docs => (b.extend docs).1
  | .tryExtend docs => (b.tryExtend docs).1

/-- A builder after calls, one after the other. -/
def run (b : Builder) (calls : List Call) : Builder := calls.foldl after b

theorem lt_of_mem_takeWhile {span d : Nat} {docs : List Nat}
    (h : d ∈ docs.takeWhile fun d => decide (d < span)) : d < span := by
  simpa using List.mem_takeWhile_imp h

/-- A builder that marks the documents of a list before the first that is out of span. -/
theorem mark_inSpan_spec (b : Builder) (docs : List Nat) :
    (b.mark (b.inSpan docs)).span = b.span ∧ ∀ d, (b.mark (b.inSpan docs)).held.contains d = true ↔
      b.held.contains d = true ∨ d ∈ b.inSpan docs := by
  refine ⟨span_mark b _, fun d => ?_⟩
  rw [contains_mark, Bool.or_eq_true, Bool.and_eq_true, decide_eq_true_eq, decide_eq_true_eq]
  exact or_congr_right (and_iff_left_of_imp lt_of_mem_takeWhile)

theorem after_extend (b : Builder) (docs : List Nat) :
    b.after (.extend docs) = b.mark (b.inSpan docs) := by
  simp only [after, extend]
  split <;> rfl

theorem after_tryExtend (b : Builder) (docs : List Nat) :
    b.after (.tryExtend docs) = b.mark (b.inSpan docs) := by
  simp only [after, tryExtend]
  split <;> rfl

/-- **One call.** A builder holds what it held and what the call marks. -/
theorem after_spec (b : Builder) (c : Call) :
    (b.after c).span = b.span ∧ ∀ d, (b.after c).held.contains d = true ↔
      b.held.contains d = true ∨ d ∈ c.marks b.span := by
  cases c with
  | set e =>
    have hmarks : (Call.set e).marks b.span = b.inSpan [e] := rfl
    rw [hmarks]
    by_cases he : e < b.span
    · have hin : b.inSpan [e] = [e] := by simp [inSpan, he]
      have hset : b.after (.set e) = b.mark (b.inSpan [e]) := by
        simp only [after, set, if_pos he, hin]
      rw [hset]
      exact mark_inSpan_spec b [e]
    · have hin : b.inSpan [e] = [] := by simp [inSpan, he]
      have hset : b.after (.set e) = b := by simp only [after, set, if_neg he]
      rw [hset, hin]
      simp
  | extend docs =>
    rw [after_extend]
    exact mark_inSpan_spec b docs
  | tryExtend docs =>
    rw [after_tryExtend]
    exact mark_inSpan_spec b docs

/-- **Any calls.** A builder holds what it held and what each of the calls marks. -/
theorem run_spec (b : Builder) (calls : List Call) :
    (b.run calls).span = b.span ∧ ∀ d, (b.run calls).held.contains d = true ↔
      b.held.contains d = true ∨ ∃ c ∈ calls, d ∈ c.marks b.span := by
  induction calls generalizing b with
  | nil => exact ⟨rfl, fun d => by simp [run]⟩
  | cons c calls ih =>
    obtain ⟨hspan, hheld⟩ := after_spec b c
    obtain ⟨hspan', hheld'⟩ := ih (b.after c)
    refine ⟨hspan'.trans hspan, fun d => ?_⟩
    refine (hheld' d).trans ?_
    rw [hheld d, hspan, or_assoc]
    simp only [List.mem_cons, exists_eq_or_imp]

end Builder

/-! ## Recipes -/

/-- How a set of documents is made. -/
inductive Recipe where
  | empty (span : Nat)
  | full (span : Nat)
  | ofDocs (span : Nat) (docs : List Nat)
  | built (span : Nat) (calls : List Builder.Call)
  | union (x y : Recipe)
  | intersect (x y : Recipe)
  | difference (x y : Recipe)
  | invert (x : Recipe)

namespace Recipe

/-- The set that is made. -/
def eval : Recipe → Except Violation DocSet
  | empty span => .ok (DocSet.empty span)
  | full span => .ok (DocSet.full span)
  | ofDocs span docs => .ok (DocSet.ofDocs span docs)
  | built span calls => .ok ((Builder.new span).run calls).build
  | union x y => do
    let s ← x.eval
    let t ← y.eval
    s.union t
  | intersect x y => do
    let s ← x.eval
    let t ← y.eval
    s.intersect t
  | difference x y => do
    let s ← x.eval
    let t ← y.eval
    s.difference t
  | invert x => do
    let s ← x.eval
    return s.invert

/-- All sets are of one span. -/
def Over (n : Nat) : Recipe → Prop
  | empty span | full span | ofDocs span _ | built span _ => span = n
  | union x y | intersect x y | difference x y => x.Over n ∧ y.Over n
  | invert x => x.Over n

/-- What is described among the documents below the span. -/
def Describes (d : Nat) : Recipe → Prop
  | empty _ => False
  | full _ => True
  | ofDocs _ docs => d ∈ docs
  | built span calls => ∃ c ∈ calls, d ∈ c.marks span
  | union x y => x.Describes d ∨ y.Describes d
  | intersect x y => x.Describes d ∧ y.Describes d
  | difference x y => x.Describes d ∧ ¬ y.Describes d
  | invert x => ¬ x.Describes d

/-! ## Made sets -/

variable {x y : Recipe} {n : Nat}

/-- A recipe gives a set of a span that holds what is described below it. -/
def Makes (x : Recipe) (n : Nat) : Prop :=
  ∃ s, x.eval = .ok s ∧ s.span = n ∧ ∀ d, s.contains d = true ↔ d < n ∧ x.Describes d

/-- **Over one span** a recipe gives a set, and the set holds what is described. -/
theorem eval_spec (h : x.Over n) : x.Makes n := by
  induction x with
  | empty span => exact ⟨_, rfl, h, fun d => by simp [Describes]⟩
  | full span =>
    have hspan : span = n := h
    refine ⟨_, rfl, h, fun d => ?_⟩
    rw [contains_full, decide_eq_true_eq, hspan]
    exact (and_iff_left trivial).symm
  | ofDocs span docs =>
    have hspan : span = n := h
    refine ⟨_, rfl, h, fun d => ?_⟩
    rw [contains_ofDocs, Bool.and_eq_true, decide_eq_true_eq, decide_eq_true_eq, hspan, and_comm]
    exact Iff.rfl
  | built span calls =>
    have hspan : span = n := h
    obtain ⟨hrun, hheld⟩ := Builder.run_spec (Builder.new span) calls
    refine ⟨_, rfl, hrun.trans hspan, fun d => (hheld d).trans ?_⟩
    have hnew : (Builder.new span).held.contains d = false := rfl
    rw [hnew]
    simp only [Bool.false_eq_true, false_or]
    refine (and_iff_right_of_imp ?_).symm
    rintro ⟨c, -, hd⟩
    exact hspan ▸ Builder.lt_of_mem_takeWhile hd
  | union x y hx hy =>
    obtain ⟨s, hs, hsn, hsd⟩ := hx h.1
    obtain ⟨t, ht, htn, htd⟩ := hy h.2
    obtain ⟨r, hr, hspan, hmem⟩ := union_spec (hsn.trans htn.symm)
    refine ⟨r, ?_, hspan.trans hsn, fun d => ?_⟩
    · rw [eval, hs, ht]
      exact hr
    · rw [hmem d, hsd d, htd d, ← and_or_left]
      exact Iff.rfl
  | intersect x y hx hy =>
    obtain ⟨s, hs, hsn, hsd⟩ := hx h.1
    obtain ⟨t, ht, htn, htd⟩ := hy h.2
    obtain ⟨r, hr, hspan, hmem⟩ := intersect_spec (hsn.trans htn.symm)
    refine ⟨r, ?_, hspan.trans hsn, fun d => ?_⟩
    · rw [eval, hs, ht]
      exact hr
    · rw [hmem d, hsd d, htd d, ← and_and_left]
      exact Iff.rfl
  | difference x y hx hy =>
    obtain ⟨s, hs, hsn, hsd⟩ := hx h.1
    obtain ⟨t, ht, htn, htd⟩ := hy h.2
    obtain ⟨r, hr, hspan, hmem⟩ := difference_spec (hsn.trans htn.symm)
    refine ⟨r, ?_, hspan.trans hsn, fun d => ?_⟩
    · rw [eval, hs, ht]
      exact hr
    · rw [hmem d, hsd d, htd d, and_assoc]
      refine and_congr_right fun hd => ?_
      rw [and_iff_right hd]
      exact Iff.rfl
  | invert x hx =>
    obtain ⟨s, hs, hsn, hsd⟩ := hx h
    refine ⟨s.invert, ?_, hsn, fun d => ?_⟩
    · rw [eval, hs]
      rfl
    · rw [mem_invert, hsd d, hsn]
      refine and_congr_right fun hd => ?_
      rw [and_iff_right hd]
      exact Iff.rfl

/-- Sets that combine are of one span. -/
theorem over_of_combine {op : Bool → Bool → Bool} {h : op false false = false} {r : DocSet}
    (hx : ∀ s, x.eval = .ok s → x.Over s.span) (hy : ∀ t, y.eval = .ok t → y.Over t.span)
    (hr : (do
      let s ← x.eval
      let t ← y.eval
      combine op h s t) = .ok r) : x.Over r.span ∧ y.Over r.span := by
  cases hs : x.eval with
  | error v =>
    rw [hs] at hr
    cases hr
  | ok s =>
    cases ht : y.eval with
    | error v =>
      rw [hs, ht] at hr
      cases hr
    | ok t =>
      rw [hs, ht] at hr
      have hr : combine op h s t = .ok r := hr
      by_cases e : s.span = t.span
      · obtain ⟨r', hr', hspan, -⟩ := combine_spec (h := h) e
        cases hr.symm.trans hr'
        exact ⟨hspan ▸ hx s hs, (hspan.trans e) ▸ hy t ht⟩
      · rw [combine_of_ne e] at hr
        cases hr

/-- **A recipe that gives a set** is over one span. -/
theorem over_of_eval {s : DocSet} (h : x.eval = .ok s) : x.Over s.span := by
  induction x generalizing s with
  | empty span | full span | ofDocs span docs =>
    cases h
    rfl
  | built span calls =>
    cases h
    exact (Builder.run_spec (Builder.new span) calls).1.symm
  | union x y hx hy => exact over_of_combine (fun s => hx) (fun t => hy) h
  | intersect x y hx hy => exact over_of_combine (fun s => hx) (fun t => hy) h
  | difference x y hx hy => exact over_of_combine (fun s => hx) (fun t => hy) h
  | invert x hx =>
    cases ht : x.eval with
    | error v =>
      rw [eval, ht] at h
      cases h
    | ok t =>
      rw [eval, ht] at h
      cases h
      have hover : x.Over t.span := hx ht
      exact hover

end Recipe

/-! ## Laws -/

theorem invert_invert (s : DocSet) : s.invert.invert = s := by
  refine ext rfl fun d => ?_
  have hspan : s.invert.span = s.span := rfl
  rw [Bool.eq_iff_iff, mem_invert, mem_invert, hspan, not_and_not_right]
  exact ⟨fun h => h.2 h.1, fun h => ⟨lt_of_contains h, fun _ => h⟩⟩

/-- What is in neither of two sets is out of both. -/
theorem invert_union (s t : DocSet) :
    (s.union t).map invert = s.invert.intersect t.invert := by
  by_cases e : s.span = t.span
  · have he : s.invert.span = t.invert.span := e
    obtain ⟨r, hr, hspan, hmem⟩ := union_spec e
    obtain ⟨r', hr', hspan', hmem'⟩ := intersect_spec he
    have hrr : r.invert = r' := by
      refine ext (hspan.trans hspan'.symm) fun d => ?_
      rw [Bool.eq_iff_iff, mem_invert, hmem' d, mem_invert, mem_invert, hmem d, hspan, e, not_or,
        and_and_left]
    rw [hr, hr', ← hrr]
    rfl
  · have hunion : s.union t = .error (.spanMismatch s.span t.span) := combine_of_ne e
    have hintersect : s.invert.intersect t.invert = .error (.spanMismatch s.span t.span) :=
      combine_of_ne e
    rw [hunion, hintersect]
    rfl

/-- What is not in both of two sets is out of one of them. -/
theorem invert_intersect (s t : DocSet) :
    (s.intersect t).map invert = s.invert.union t.invert := by
  by_cases e : s.span = t.span
  · have he : s.invert.span = t.invert.span := e
    obtain ⟨r, hr, hspan, hmem⟩ := intersect_spec e
    obtain ⟨r', hr', hspan', hmem'⟩ := union_spec he
    have hrr : r.invert = r' := by
      refine ext (hspan.trans hspan'.symm) fun d => ?_
      rw [Bool.eq_iff_iff, mem_invert, hmem' d, mem_invert, mem_invert, hmem d, hspan, e,
        not_and_or, and_or_left]
    rw [hr, hr', ← hrr]
    rfl
  · have hintersect : s.intersect t = .error (.spanMismatch s.span t.span) := combine_of_ne e
    have hunion : s.invert.union t.invert = .error (.spanMismatch s.span t.span) :=
      combine_of_ne e
    rw [hintersect, hunion]
    rfl

/-- A set is put together from its part in another set and its part outside. -/
theorem union_intersect_difference (s t : DocSet) :
    (do
      let inside ← s.intersect t
      let outside ← s.difference t
      inside.union outside) =
      if s.span = t.span then .ok s else .error (.spanMismatch s.span t.span) := by
  by_cases e : s.span = t.span
  · obtain ⟨a, ha, haspan, hamem⟩ := intersect_spec e
    obtain ⟨b, hb, hbspan, hbmem⟩ := difference_spec e
    obtain ⟨r, hr, hspan, hmem⟩ := union_spec (haspan.trans hbspan.symm)
    have hrs : r = s := by
      refine ext (hspan.trans haspan) fun d => ?_
      rw [Bool.eq_iff_iff, hmem d, hamem d, hbmem d, ← and_or_left]
      exact and_iff_left (em _)
    rw [ha, hb, if_pos e, ← hrs]
    exact hr
  · have hintersect : s.intersect t = .error (.spanMismatch s.span t.span) := combine_of_ne e
    rw [hintersect, if_neg e]
    rfl

/-- **Sets of documents are the subsets of their spans.** A recipe gives a set exactly if all of its
sets are of one span, and the set holds what is described below that span; two sets of different
spans do not combine. A set lists its members in ascending order, all of them below its span, and
counts them. Two sets are equal if they have the same span and the same members, however they were
made, so that the laws of complement and difference are equalities. -/
theorem recipes_make_subsets :
    (∀ (x : Recipe) n, x.Over n ↔
      ∃ s, x.eval = .ok s ∧ s.span = n ∧ ∀ d, s.contains d = true ↔ d < n ∧ x.Describes d) ∧
    (∀ s t : DocSet, ((∃ r, s.union t = .ok r) ↔ s.span = t.span) ∧
      ((∃ r, s.intersect t = .ok r) ↔ s.span = t.span) ∧
      ((∃ r, s.difference t = .ok r) ↔ s.span = t.span)) ∧
    (∀ s : DocSet, s.toList.Pairwise (· < ·) ∧ (∀ d ∈ s.toList, d < s.span) ∧
      (∀ d, s.contains d = true ↔ d ∈ s.toList) ∧ s.count = s.toList.length ∧
      (s.isEmpty = true ↔ s.count = 0)) ∧
    (∀ s t : DocSet, s = t ↔ s.span = t.span ∧ ∀ d, d ∈ s.toList ↔ d ∈ t.toList) ∧
    (∀ s : DocSet, s.invert.invert = s) ∧
    (∀ s t : DocSet, (s.union t).map invert = s.invert.intersect t.invert) ∧
    (∀ s t : DocSet, (s.intersect t).map invert = s.invert.union t.invert) ∧
    ∀ s t : DocSet, (do
      let inside ← s.intersect t
      let outside ← s.difference t
      inside.union outside) =
        if s.span = t.span then .ok s else .error (.spanMismatch s.span t.span) := by
  refine ⟨fun x n => ⟨Recipe.eval_spec, ?_⟩,
    fun s t => ⟨combine_eq_ok_iff, combine_eq_ok_iff, combine_eq_ok_iff⟩, fun s => ?_,
    fun s t => eq_iff_members, invert_invert, invert_union, invert_intersect,
    union_intersect_difference⟩
  · rintro ⟨s, hs, rfl, -⟩
    exact Recipe.over_of_eval hs
  · exact ⟨pairwise_toList s, fun d hd => lt_of_contains (mem_toList.mp hd),
      fun d => mem_toList.symm, count_eq_length s, isEmpty_iff_count⟩

end UsageIndex.DocSet
