import Mathlib.Data.List.TakeWhile
import UsageIndex.Scope
import UsageIndex.Search

/-!
# Putting postings together

A search and a package filter both put the postings of several terms together in one builder, and
stop at the first postings that cannot be had. `termsSet` is what they share.

* **`exists_first_cons_iff`**: the first that is met of a list, by its head.
* **`DocSet.Builder.addPostings_eq_ok_iff`**: postings are added exactly if all of them are in span.
* **`postingsSet_eq_termsSet`**, **`collectTerms_eq_termsSet`**, **`allowed_eq_termsSet`**: a search
  for a term, a search along the dictionary and a package filter all compute the set of some terms.
* **`termsSet_spec`**: that set, where the postings of all terms can be had.
-/

namespace UsageIndex

/-! ## The first of a list -/

/-- Where a list is passed through up to the first that is met, that is its head, or its head is
passed and the first of the others is met. -/
theorem exists_first_cons_iff {α : Type} {P Q : α → Prop} {x : α} {l : List α} :
    (∃ before y after, x :: l = before ++ y :: after ∧ (∀ z ∈ before, P z) ∧ Q y) ↔
      Q x ∨ P x ∧ ∃ before y after, l = before ++ y :: after ∧ (∀ z ∈ before, P z) ∧ Q y := by
  constructor
  · rintro ⟨before, y, after, hl, hbefore, hy⟩
    rcases List.cons_eq_append_iff.mp hl with ⟨rfl, hcons⟩ | ⟨before, rfl, rfl⟩
    · cases hcons
      exact .inl hy
    · obtain ⟨hx, hbefore⟩ := List.forall_mem_cons.mp hbefore
      exact .inr ⟨hx, before, y, after, rfl, hbefore, hy⟩
  · rintro (hx | ⟨hx, before, y, after, rfl, hbefore, hy⟩)
    · exact ⟨[], x, l, rfl, List.forall_mem_nil _, hx⟩
    · exact ⟨x :: before, y, after, rfl, List.forall_mem_cons.mpr ⟨hx, hbefore⟩, hy⟩

/-! ## Postings of one term -/

namespace DocSet.Builder

variable {b b' : DocSet.Builder} {docs : List Nat}

@[simp] theorem span_new (n : Nat) : (new n).span = n := rfl

@[simp] theorem contains_build_new (n d : Nat) : (new n).build.contains d = false := rfl

theorem firstOutOfSpan?_eq_none_iff : b.firstOutOfSpan? docs = none ↔ ∀ d ∈ docs, d < b.span := by
  unfold firstOutOfSpan?
  rw [List.find?_eq_none]
  simp only [decide_eq_true_eq, Nat.not_le]

theorem firstOutOfSpan?_eq_some_iff {d : Nat} : b.firstOutOfSpan? docs = some d ↔
    ∃ before after, docs = before ++ d :: after ∧ (∀ c ∈ before, c < b.span) ∧ b.span ≤ d := by
  unfold firstOutOfSpan?
  rw [List.find?_eq_some_iff_append]
  simp only [decide_eq_true_eq, Bool.not_eq_true', decide_eq_false_iff_not, Nat.not_le]
  constructor
  · rintro ⟨hd, before, after, hdocs, hbefore⟩
    exact ⟨before, after, hdocs, hbefore, hd⟩
  · rintro ⟨before, after, hdocs, hbefore, hd⟩
    exact ⟨hd, before, after, hdocs, hbefore⟩

theorem mem_of_firstOutOfSpan?_eq_some {d : Nat} (h : b.firstOutOfSpan? docs = some d) :
    d ∈ docs ∧ b.span ≤ d := by
  obtain ⟨before, after, rfl, -, hd⟩ := firstOutOfSpan?_eq_some_iff.mp h
  exact ⟨List.mem_append_right before List.mem_cons_self, hd⟩

theorem inSpan_of_forall_lt (h : ∀ d ∈ docs, d < b.span) : b.inSpan docs = docs := by
  unfold inSpan
  rw [List.takeWhile_eq_self_iff]
  exact fun d hd => decide_eq_true (h d hd)

theorem inSpan_append_cons {before after : List Nat} {d : Nat} (h : ∀ c ∈ before, c < b.span)
    (hd : b.span ≤ d) : b.inSpan (before ++ d :: after) = before := by
  unfold inSpan
  rw [List.takeWhile_append_of_pos fun c hc => decide_eq_true (h c hc),
    List.takeWhile_cons_of_neg (by simpa using hd), List.append_nil]

/-- **Postings are added exactly if all of them are in span.** -/
theorem addPostings_eq_ok_iff :
    b.addPostings docs = .ok b' ↔ (∀ d ∈ docs, d < b.span) ∧ b' = b.mark docs := by
  rw [← firstOutOfSpan?_eq_none_iff]
  unfold addPostings tryExtend
  cases h : b.firstOutOfSpan? docs with
  | none =>
    rw [inSpan_of_forall_lt (firstOutOfSpan?_eq_none_iff.mp h)]
    simp only [Except.ok.injEq, true_and, eq_comm]
  | some d => simp only [reduceCtorEq, false_and]

/-- A builder with postings in span holds them beside what it held. -/
theorem contains_build_mark (h : ∀ d ∈ docs, d < b.span) (d : Nat) :
    (b.mark docs).build.contains d = true ↔ b.build.contains d = true ∨ d ∈ docs := by
  unfold build
  rw [contains_mark, Bool.or_eq_true, Bool.and_eq_true, decide_eq_true_eq, decide_eq_true_eq]
  constructor
  · rintro (hb | hd)
    · exact .inl hb
    · exact .inr hd.1
  · rintro (hb | hd)
    · exact .inl hb
    · exact .inr ⟨hd, h d hd⟩

end DocSet.Builder

/-! ## Postings of several terms -/

/-- Adds the postings of terms one after the other, up to the first that cannot be had. -/
def addTerms (s : Segment) (b : DocSet.Builder) : List Term → Except Error DocSet.Builder
  | [] => .ok b
  | t :: ts => do
    let docs ← s.postings t
    let b' ← b.addPostings docs
    addTerms s b' ts

/-- Whether a term lies in the run of the dictionary that `start` begins: it is of the same field
and begins with the same text. -/
def InRun (start t : Term) : Prop :=
  t.field = start.field ∧ Text.startsWith t.text start.text = true

instance (start t : Term) : Decidable (InRun start t) := inferInstanceAs (Decidable (_ ∧ _))

/-- The terms that a search adds: those accepted, up to the first outside the run. -/
def acceptedRun (start : Term) (accept : String → Bool) (ts : List Term) : List Term :=
  (ts.takeWhile fun t => decide (InRun start t)).filter fun t => accept t.text

/-- A search adds the accepted terms of the run. -/
theorem collectFrom_eq_addTerms (s : Segment) (start : Term) (accept : String → Bool)
    (b : DocSet.Builder) (ts : List Term) :
    collectFrom s start accept b ts = addTerms s b (acceptedRun start accept ts) := by
  induction ts generalizing b with
  | nil => rfl
  | cons t ts ih =>
    unfold collectFrom acceptedRun
    by_cases hr : InRun start t
    · have hrun : t.field = start.field ∧ Text.startsWith t.text start.text = true := hr
      rw [if_pos hrun, List.takeWhile_cons_of_pos (by exact decide_eq_true hr)]
      by_cases ha : accept t.text = true
      · rw [if_pos ha, List.filter_cons_of_pos (by exact ha)]
        simp only [addTerms, ih]
        rfl
      · rw [if_neg ha, List.filter_cons_of_neg (by exact ha)]
        exact ih b
    · have hrun : ¬ (t.field = start.field ∧ Text.startsWith t.text start.text = true) := hr
      rw [if_neg hrun, List.takeWhile_cons_of_neg (by simpa using hr)]
      rfl

/-- A package filter adds the terms of its packages. -/
theorem addPackages_eq_addTerms (s : Segment) (field : String) (b : DocSet.Builder)
    (ps : List String) :
    PackagesFilter.addPackages s field b ps = addTerms s b (ps.map fun p => ⟨field, p⟩) := by
  induction ps generalizing b with
  | nil => rfl
  | cons p ps ih => simp only [PackagesFilter.addPackages, List.map_cons, addTerms, ih]

/-- **Adding terms.** If the postings of all terms can be read and are in span, they are held beside
what was held. -/
theorem addTerms_spec {s : Segment} {b : DocSet.Builder} {ts : List Term}
    (h : ∀ t ∈ ts, ∃ docs, s.postings t = .ok docs ∧ ∀ d ∈ docs, d < b.span) :
    ∃ b', addTerms s b ts = .ok b' ∧ b'.span = b.span ∧ ∀ d, b'.build.contains d = true ↔
      b.build.contains d = true ∨ ∃ t ∈ ts, ∃ docs, s.postings t = .ok docs ∧ d ∈ docs := by
  induction ts generalizing b with
  | nil => exact ⟨b, rfl, rfl, fun d => by simp⟩
  | cons t ts ih =>
    obtain ⟨docs, hdocs, hlt⟩ := h t List.mem_cons_self
    have hadd : b.addPostings docs = .ok (b.mark docs) :=
      DocSet.Builder.addPostings_eq_ok_iff.mpr ⟨hlt, rfl⟩
    have hrest : ∀ u ∈ ts,
        ∃ docs', s.postings u = .ok docs' ∧ ∀ d ∈ docs', d < (b.mark docs).span :=
      fun u hu => by rw [DocSet.Builder.span_mark]; exact h u (List.mem_cons_of_mem t hu)
    obtain ⟨b', hb', hspan, hmem⟩ := ih hrest
    refine ⟨b', ?_, by rw [hspan, DocSet.Builder.span_mark], fun d => ?_⟩
    · simp only [addTerms, hdocs, bind, Except.bind, hadd]
      exact hb'
    · rw [hmem d, DocSet.Builder.contains_build_mark hlt, or_assoc]
      simp only [List.mem_cons, exists_eq_or_imp]
      refine or_congr Iff.rfl (or_congr ?_ Iff.rfl)
      constructor
      · exact fun hd => ⟨docs, hdocs, hd⟩
      · rintro ⟨docs', he, hd⟩
        rw [hdocs] at he
        cases he
        exact hd

/-! ## The set of some terms -/

/-- The documents that carry one of some terms. -/
def termsSet (s : Segment) (ts : List Term) : Except Error DocSet := do
  let b ← addTerms s (DocSet.Builder.new s.maxDoc) ts
  return b.build

theorem postingsSet_eq_termsSet (s : Segment) (t : Term) : postingsSet s t = termsSet s [t] := by
  unfold postingsSet termsSet addTerms
  cases s.postings t with
  | error e => rfl
  | ok docs =>
    simp only [bind, Except.bind]
    cases (DocSet.Builder.new s.maxDoc).addPostings docs <;> rfl

theorem collectTerms_eq_termsSet (s : Segment) (start : Term) (accept : String → Bool) :
    collectTerms s start accept = (do
      let ts ← s.termsFrom start
      termsSet s (acceptedRun start accept ts)) := by
  unfold collectTerms termsSet
  simp only [collectFrom_eq_addTerms]

theorem allowed_eq_termsSet (f : PackagesFilter) (s : Segment) :
    f.allowed s = termsSet s (f.packages.toList.map fun p => ⟨f.field, p⟩) := by
  unfold PackagesFilter.allowed
  by_cases h : f.packages.isEmpty = true
  · rw [if_pos h, List.isEmpty_iff.mp h]
    rfl
  · rw [if_neg h]
    simp only [addPackages_eq_addTerms]
    rfl

/-- **The set of some terms.** If the postings of all terms can be read and are in span, it holds
the documents of each. -/
theorem termsSet_spec {s : Segment} {ts : List Term}
    (h : ∀ t ∈ ts, ∃ docs, s.postings t = .ok docs ∧ ∀ d ∈ docs, d < s.maxDoc) :
    ∃ r, termsSet s ts = .ok r ∧ r.span = s.maxDoc ∧ ∀ d, r.contains d = true ↔
      ∃ t ∈ ts, ∃ docs, s.postings t = .ok docs ∧ d ∈ docs := by
  obtain ⟨b, hb, hspan, hmem⟩ := addTerms_spec (b := DocSet.Builder.new s.maxDoc) h
  refine ⟨b.build, ?_, hspan, fun d => ?_⟩
  · unfold termsSet
    rw [hb]
    rfl
  · rw [hmem d, DocSet.Builder.contains_build_new]
    simp only [Bool.false_eq_true, false_or]

end UsageIndex
