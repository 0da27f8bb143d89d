import UsageIndex.Proofs.Postings
import UsageIndex.Segment.Faults

/-!
# The documents of some packages

A package filter puts the postings of its packages together in the order of their names. Two things
may go wrong at each of them: the postings cannot be read, or they are out of span. The first
package at which one of the two happens decides the error, and no other read matters.

* **`Segment.Readable`**, **`Segment.Refuses`**: what the postings of a term come to.
  `Segment.readable_or_refuses`: one or the other, and `Segment.Refuses.unique`: with one error.
* **`termsSet_eq_ok_iff`**, **`termsSet_eq_error_iff`**: the set of some terms, and the error where
  there is none.
* **`PackagesFilter.allowed_unites_postings`**: what a package filter allows.
-/

namespace UsageIndex

/-! ## Postings of one term -/

namespace DocSet.Builder

/-- **Postings are refused** at the first document that is out of span. -/
theorem addPostings_eq_error_iff {b : DocSet.Builder} {docs : List Nat} {e : Error} :
    b.addPostings docs = .error e ↔ ∃ before d after, docs = before ++ d :: after ∧
      (∀ c ∈ before, c < b.span) ∧ b.span ≤ d ∧
        e = .invalidFormat "postings" (outOfSpanText d b.span) := by
  unfold addPostings tryExtend
  cases h : b.firstOutOfSpan? docs with
  | none =>
    simp only [reduceCtorEq, false_iff]
    rintro ⟨before, d, after, hdocs, hbefore, hd, -⟩
    rw [firstOutOfSpan?_eq_some_iff.mpr ⟨before, after, hdocs, hbefore, hd⟩] at h
    cases h
  | some d =>
    simp only [Except.error.injEq]
    constructor
    · rintro rfl
      obtain ⟨before, after, hdocs, hbefore, hd⟩ := firstOutOfSpan?_eq_some_iff.mp h
      exact ⟨before, d, after, hdocs, hbefore, hd, rfl⟩
    · rintro ⟨before, d', after, hdocs, hbefore, hd', rfl⟩
      rw [firstOutOfSpan?_eq_some_iff.mpr ⟨before, after, hdocs, hbefore, hd'⟩,
        Option.some.injEq] at h
      rw [h]

end DocSet.Builder

namespace Segment

/-- The postings of a term can be read and are in span. -/
def Readable (s : Segment) (t : Term) : Prop :=
  ∃ docs, s.postings t = .ok docs ∧ ∀ d ∈ docs, d < s.maxDoc

/-- The postings of a term are refused with an error: the one of the read, or the one that tells
the first document that is out of span. -/
inductive Refuses (s : Segment) (t : Term) : Error → Prop where
  | unread {e : Error} : s.postings t = .error e → Refuses s t e
  | outOfSpan {before after : List Nat} {d : Nat} : s.postings t = .ok (before ++ d :: after) →
      (∀ c ∈ before, c < s.maxDoc) → s.maxDoc ≤ d →
      Refuses s t (.invalidFormat "postings" (outOfSpanText d s.maxDoc))

end Segment

/-! ## Postings of several terms -/

section

variable {s : Segment} {b : DocSet.Builder} {t : Term} {ts : List Term} {e e' : Error}

theorem addTerms_of_readable (hb : b.span = s.maxDoc) (h : s.Readable t) (ts : List Term) :
    ∃ b' : DocSet.Builder, b'.span = s.maxDoc ∧ addTerms s b (t :: ts) = addTerms s b' ts := by
  obtain ⟨docs, hdocs, hlt⟩ := h
  have hadd : b.addPostings docs = .ok (b.mark docs) :=
    DocSet.Builder.addPostings_eq_ok_iff.mpr ⟨hb ▸ hlt, rfl⟩
  refine ⟨b.mark docs, by rw [DocSet.Builder.span_mark, hb], ?_⟩
  simp only [addTerms, hdocs, bind, Except.bind, hadd]

theorem addTerms_of_refuses (hb : b.span = s.maxDoc) (h : s.Refuses t e) (ts : List Term) :
    addTerms s b (t :: ts) = .error e := by
  cases h with
  | unread hread =>
    rw [addTerms, hread]
    rfl
  | @outOfSpan before after d hread hbefore hd =>
    have hadd : b.addPostings (before ++ d :: after) =
        .error (.invalidFormat "postings" (outOfSpanText d b.span)) :=
      DocSet.Builder.addPostings_eq_error_iff.mpr
        ⟨before, d, after, rfl, hb ▸ hbefore, hb ▸ hd, rfl⟩
    simp only [addTerms, hread, bind, Except.bind, hadd, hb]

namespace Segment

theorem readable_or_refuses (s : Segment) (t : Term) : s.Readable t ∨ ∃ e, s.Refuses t e := by
  cases hread : s.postings t with
  | error e => exact .inr ⟨e, .unread hread⟩
  | ok docs =>
    cases hadd : (DocSet.Builder.new s.maxDoc).addPostings docs with
    | ok b => exact .inl ⟨docs, hread, (DocSet.Builder.addPostings_eq_ok_iff.mp hadd).1⟩
    | error e =>
      obtain ⟨before, d, after, rfl, hbefore, hd, -⟩ :=
        DocSet.Builder.addPostings_eq_error_iff.mp hadd
      exact .inr ⟨_, .outOfSpan hread hbefore hd⟩

/-- A term is refused with one error. -/
theorem Refuses.unique (h : s.Refuses t e) (h' : s.Refuses t e') : e = e' := by
  have hb := DocSet.Builder.span_new s.maxDoc
  have he := (addTerms_of_refuses hb h []).symm.trans (addTerms_of_refuses hb h' [])
  exact Except.error.inj he

theorem Refuses.not_readable (h : s.Refuses t e) : ¬ s.Readable t := by
  intro h'
  have hb := DocSet.Builder.span_new s.maxDoc
  obtain ⟨b, -, hadd⟩ := addTerms_of_readable hb h' []
  rw [addTerms_of_refuses hb h] at hadd
  cases hadd

end Segment

theorem readable_of_addTerms {b' : DocSet.Builder} (hb : b.span = s.maxDoc)
    (h : addTerms s b ts = .ok b') : ∀ t ∈ ts, s.Readable t := by
  induction ts generalizing b with
  | nil => simp
  | cons t ts ih =>
    rcases s.readable_or_refuses t with ht | ⟨e, ht⟩
    · obtain ⟨b₁, hb₁, hadd⟩ := addTerms_of_readable hb ht ts
      exact List.forall_mem_cons.mpr ⟨ht, ih hb₁ (hadd ▸ h)⟩
    · rw [addTerms_of_refuses hb ht] at h
      cases h

/-- **Adding terms** fails at the first that is refused. -/
theorem addTerms_eq_error_iff (hb : b.span = s.maxDoc) : addTerms s b ts = .error e ↔
    ∃ before t after, ts = before ++ t :: after ∧ (∀ u ∈ before, s.Readable u) ∧
      s.Refuses t e := by
  -- only the span of the builder has a part in the error, so the hypothesis is for any that it may
  -- have become
  induction ts generalizing b with
  | nil => simp [addTerms]
  | cons t ts ih =>
    rw [exists_first_cons_iff]
    rcases s.readable_or_refuses t with ht | ⟨e', ht⟩
    · obtain ⟨b', hb', hadd⟩ := addTerms_of_readable hb ht ts
      have hnot : ¬ s.Refuses t e := fun h => h.not_readable ht
      rw [hadd, ih hb']
      simp only [ht, hnot, true_and, false_or]
    · have hnot : ¬ s.Readable t := ht.not_readable
      rw [addTerms_of_refuses hb ht, Except.error.injEq]
      simp only [hnot, false_and, or_false]
      exact ⟨fun he => he ▸ ht, ht.unique⟩

/-- Adding terms reads their postings and nothing else. -/
theorem addTerms_congr {s' : Segment} (h : ∀ t ∈ ts, s'.postings t = s.postings t) :
    addTerms s' b ts = addTerms s b ts := by
  induction ts generalizing b with
  | nil => rfl
  | cons t ts ih =>
    obtain ⟨ht, hts⟩ := List.forall_mem_cons.mp h
    simp only [addTerms, ht, ih hts]

/-! ## The set of some terms -/

/-- Of an ascending list, the first that is met is the least. -/
theorem exists_append_cons_iff {α : Type} [LT α] [StrictTotal α] {l : List α} {P Q : α → Prop}
    (h : l.Pairwise (· < ·)) :
    (∃ before x after, l = before ++ x :: after ∧ (∀ y ∈ before, P y) ∧ Q x) ↔
      ∃ x ∈ l, Q x ∧ ∀ y ∈ l, y < x → P y := by
  constructor
  · rintro ⟨before, x, after, rfl, hbefore, hx⟩
    refine ⟨x, List.mem_append_right _ List.mem_cons_self, hx, fun y hy hyx => ?_⟩
    rw [List.pairwise_append, List.pairwise_cons] at h
    obtain ⟨-, ⟨hafter, -⟩, -⟩ := h
    rcases List.mem_append.mp hy with hy | hy
    · exact hbefore y hy
    · rcases List.mem_cons.mp hy with rfl | hy
      · exact absurd hyx (StrictTotal.irrefl y)
      · exact absurd (hafter y hy) (StrictTotal.asymm hyx)
  · rintro ⟨x, hx, hQ, hless⟩
    obtain ⟨before, after, rfl⟩ := List.append_of_mem hx
    refine ⟨before, x, after, rfl, fun y hy => ?_, hQ⟩
    exact hless y (List.mem_append_left _ hy)
      ((List.pairwise_append.mp h).2.2 y hy x List.mem_cons_self)

/-- **The set of some terms** cannot be had if one of them is refused; of ascending terms, the least
that is refused decides the error. -/
theorem termsSet_eq_error_iff (h : ts.Pairwise (· < ·)) : termsSet s ts = .error e ↔
    ∃ t ∈ ts, s.Refuses t e ∧ ∀ u ∈ ts, u < t → s.Readable u := by
  rw [← exists_append_cons_iff h, ← addTerms_eq_error_iff (DocSet.Builder.span_new s.maxDoc)]
  unfold termsSet
  cases addTerms s (DocSet.Builder.new s.maxDoc) ts <;> simp [bind, Except.bind, pure, Except.pure]

/-- **The set of some terms** holds the documents of each, if all of them are readable. -/
theorem termsSet_eq_ok_iff {r : DocSet} : termsSet s ts = .ok r ↔
    (∀ t ∈ ts, s.Readable t) ∧ r.span = s.maxDoc ∧ ∀ d, r.contains d = true ↔
      ∃ t ∈ ts, ∃ docs, s.postings t = .ok docs ∧ d ∈ docs := by
  constructor
  · intro hr
    have hreadable : ∀ t ∈ ts, s.Readable t := by
      unfold termsSet at hr
      cases hb : addTerms s (DocSet.Builder.new s.maxDoc) ts with
      | ok b => exact readable_of_addTerms (DocSet.Builder.span_new s.maxDoc) hb
      | error e =>
        rw [hb] at hr
        cases hr
    obtain ⟨r', hr', hspan, hmem⟩ := termsSet_spec hreadable
    cases hr.symm.trans hr'
    exact ⟨hreadable, hspan, hmem⟩
  · rintro ⟨hreadable, hspan, hmem⟩
    obtain ⟨r', hr', hspan', hmem'⟩ := termsSet_spec hreadable
    have he : r' = r := DocSet.ext (hspan'.trans hspan.symm) fun d => by
      rw [Bool.eq_iff_iff, hmem' d, hmem d]
    rw [hr', he]

end

/-! ## Package filters -/

theorem Term.mk_lt_mk_iff {field p q : String} : Term.mk field p < Term.mk field q ↔ p < q := by
  rw [Term.lt_def]
  constructor
  · rintro (h | ⟨-, h⟩)
    · exact absurd h (StrictTotal.irrefl field)
    · exact h
  · exact fun h => .inr ⟨rfl, h⟩

namespace PackagesFilter

/-- The terms of the packages. -/
def terms (f : PackagesFilter) : List Term := f.packages.toList.map fun p => ⟨f.field, p⟩

theorem forall_mem_terms {f : PackagesFilter} {P : Term → Prop} :
    (∀ t ∈ f.terms, P t) ↔ ∀ p ∈ f.packages, P ⟨f.field, p⟩ :=
  List.forall_mem_map

theorem exists_mem_terms {f : PackagesFilter} {P : Term → Prop} :
    (∃ t ∈ f.terms, P t) ↔ ∃ p ∈ f.packages, P ⟨f.field, p⟩ := by
  simp only [terms, List.mem_map, exists_exists_and_eq_and, OrderedSet.mem_def]

theorem pairwise_terms (f : PackagesFilter) : f.terms.Pairwise (· < ·) :=
  List.pairwise_map.mpr (f.packages.ascending.imp Term.mk_lt_mk_iff.mpr)

/-- **A package filter unites the postings of its packages or fails.** Without packages it reads
nothing, whatever is wrong with the segment. It succeeds exactly if the postings of all its packages
are readable; then it allows the documents of each, over the span of the segment. Otherwise the
least package that is refused decides the error. What the segment answers for other terms makes no
difference. -/
theorem allowed_unites_postings (f : PackagesFilter) (s : Segment) :
    ((∀ p, p ∉ f.packages) → f.allowed s = .ok (DocSet.empty s.maxDoc)) ∧
    ((∃ r, f.allowed s = .ok r) ↔ ∀ p ∈ f.packages, s.Readable ⟨f.field, p⟩) ∧
    (∀ r, f.allowed s = .ok r → r.span = s.maxDoc ∧ ∀ d, r.contains d = true ↔
      ∃ p ∈ f.packages, ∃ docs, s.postings ⟨f.field, p⟩ = .ok docs ∧ d ∈ docs) ∧
    (∀ e, f.allowed s = .error e ↔ ∃ p ∈ f.packages, s.Refuses ⟨f.field, p⟩ e ∧
      ∀ q ∈ f.packages, q < p → s.Readable ⟨f.field, q⟩) ∧
    ∀ s' : Segment, s'.maxDoc = s.maxDoc →
      (∀ p ∈ f.packages, s'.postings ⟨f.field, p⟩ = s.postings ⟨f.field, p⟩) →
      f.allowed s' = f.allowed s := by
  have hallowed : ∀ s, f.allowed s = termsSet s f.terms := allowed_eq_termsSet f
  refine ⟨fun hempty => ?_, ?_, fun r hr => ?_, fun e => ?_, fun s' hmax hpostings => ?_⟩
  · rw [hallowed, termsSet_eq_ok_iff, forall_mem_terms]
    refine ⟨fun p hp => absurd hp (hempty p), rfl, fun d => ?_⟩
    rw [exists_mem_terms, DocSet.contains_empty]
    simp [hempty]
  · rw [← forall_mem_terms]
    constructor
    · rintro ⟨r, hr⟩
      exact (termsSet_eq_ok_iff.mp ((hallowed s).symm.trans hr)).1
    · intro hreadable
      obtain ⟨r, hr, -⟩ := termsSet_spec hreadable
      exact ⟨r, (hallowed s).trans hr⟩
  · obtain ⟨-, hspan, hmem⟩ := termsSet_eq_ok_iff.mp ((hallowed s).symm.trans hr)
    exact ⟨hspan, fun d => (hmem d).trans exists_mem_terms⟩
  · rw [hallowed, termsSet_eq_error_iff f.pairwise_terms, exists_mem_terms]
    simp only [forall_mem_terms, Term.mk_lt_mk_iff]
  · rw [hallowed, hallowed]
    unfold termsSet
    rw [hmax, addTerms_congr (forall_mem_terms.mpr hpostings)]

/-- Of the packages `a`, `b` and `c`, the second has postings out of span and those of the third
cannot be read. -/
def partlyRefused : Segment where
  maxDoc := 2
  postings t :=
    if t.text = "a" then .ok [1, 0, 1]
    else if t.text = "b" then .ok [1, 5, 7]
    else .error (.indexUnavailable "postings" "fault")
  termsFrom _ := .error (.indexUnavailable "terms" "fault")

theorem allowed_partlyRefused :
    (PackagesFilter.mk "p" OrderedSet.empty).allowed partlyRefused = .ok (DocSet.empty 2) ∧
    (∃ r, (PackagesFilter.mk "p" (.ofList ["a"])).allowed partlyRefused = .ok r ∧
      r.span = 2 ∧ r.contains 0 = true ∧ r.contains 1 = true) ∧
    (PackagesFilter.mk "p" (.ofList ["c", "a", "b"])).allowed partlyRefused =
      .error (.invalidFormat "postings" "doc id 5 out of span 2") ∧
    (PackagesFilter.mk "p" (.ofList ["a"])).allowed
        (partlyRefused.withFaults ⟨["q"], [⟨"p", "b"⟩], ["p"], none, none⟩) =
      (PackagesFilter.mk "p" (.ofList ["a"])).allowed partlyRefused := by
  refine ⟨?_, ?_, ?_, ?_⟩
  · exact (allowed_unites_postings ⟨"p", OrderedSet.empty⟩ partlyRefused).1 fun p =>
      OrderedSet.not_mem_empty p
  · obtain ⟨-, hsuccess, hset, -⟩ :=
      allowed_unites_postings ⟨"p", .ofList ["a"]⟩ partlyRefused
    obtain ⟨r, hr⟩ := hsuccess.mpr (by simpa using ⟨[1, 0, 1], rfl, by decide⟩)
    obtain ⟨hspan, hmem⟩ := hset r hr
    exact ⟨r, hr, hspan, (hmem 0).mpr ⟨"a", by simp, [1, 0, 1], rfl, by decide⟩,
      (hmem 1).mpr ⟨"a", by simp, [1, 0, 1], rfl, by decide⟩⟩
  · obtain ⟨-, -, -, herror, -⟩ :=
      allowed_unites_postings ⟨"p", .ofList ["c", "a", "b"]⟩ partlyRefused
    refine (herror _).mpr ⟨"b", by simp, ?_, fun q hq hlt => ?_⟩
    · exact @Segment.Refuses.outOfSpan partlyRefused ⟨"p", "b"⟩ [1] [7] 5 rfl (by decide)
        (by decide)
    · have hq : q = "c" ∨ q = "a" ∨ q = "b" := by simpa using hq
      rcases hq with rfl | rfl | rfl
      · exact absurd hlt (by decide)
      · exact ⟨[1, 0, 1], rfl, by decide⟩
      · exact absurd hlt (by decide)
  · exact (allowed_unites_postings ⟨"p", .ofList ["a"]⟩ partlyRefused).2.2.2.2 _ rfl
      (by simp [Segment.withFaults, Faults.breaksPostings])

end PackagesFilter

end UsageIndex
