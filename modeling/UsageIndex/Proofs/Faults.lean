import UsageIndex.Proofs.Composition
import UsageIndex.Proofs.Postings
import UsageIndex.Proofs.UsageQueries
import UsageIndex.Segment
import UsageIndex.Segment.Faults

/-!
# Searches over broken segments

A segment that breaks another answers each read as the other does or reports that the index is
unavailable. No search takes such a report for an answer: what it finds on the broken segment it
would find on the sound one, and an error is the one of the sound segment or that of a read that
broke.

* **`FailsSafely`**: how the two outcomes stand to each other. It is kept by sequencing
  (`FailsSafely.bind`), so that each operation needs to be looked at for its own reads alone.
* **`execute_failsSafely`**: searches, over filters that are `Filter.Tame`.
* **`search_over_broken_segment`**: searches and the calls of a session.
-/

namespace UsageIndex

/-! ## Broken segments -/

namespace Segment

/-- `s'` answers each read as `s` does or reports that the index is unavailable. -/
structure Breaks (s' s : Segment) : Prop where
  maxDoc : s'.maxDoc = s.maxDoc
  postings : ∀ t, s'.postings t = s.postings t ∨
    ∃ c w, s'.postings t = .error (.indexUnavailable c w)
  termsFrom : ∀ t, s'.termsFrom t = s.termsFrom t ∨
    ∃ c w, s'.termsFrom t = .error (.indexUnavailable c w)

/-- The error of a read that `s'` answers otherwise than `s`. -/
def BrokenRead (s' s : Segment) (e : Error) : Prop :=
  (∃ t, s'.postings t = .error e ∧ s'.postings t ≠ s.postings t) ∨
    ∃ t, s'.termsFrom t = .error e ∧ s'.termsFrom t ≠ s.termsFrom t

/-- The failure of a computation that stops at a read that `s'` answers otherwise than `s`. -/
def BrokenSearch (s' s : Segment) (f : Failure) : Prop := ∃ e, f = .error e ∧ s'.BrokenRead s e

/-- Reads that fail break a segment, as long as nothing else is wrong with it. -/
theorem withFaults_breaks (s : Segment) {f : Faults} (hp : f.postings = none)
    (hm : f.maxDoc = none) : (s.withFaults f).Breaks s := by
  refine ⟨by simp only [withFaults, hm, Option.getD_none], fun t => ?_, fun t => ?_⟩
  · by_cases hb : f.breaksPostings t = true
    · exact .inr ⟨_, _, if_pos hb⟩
    · refine .inl ((if_neg hb).trans ?_)
      rw [hp]
  · by_cases hb : f.breaksTerms t = true
    · exact .inr ⟨_, _, if_pos hb⟩
    · exact .inl (if_neg hb)

end Segment

/-! ## Two outcomes -/

/-- The outcome `x'` beside `x`: what `x'` yields `x` yields, and a failure of `x'` is that of `x`
or is a broken one. -/
structure FailsSafely {ε α : Type} (broken : ε → Prop) (x' x : Except ε α) : Prop where
  ok : ∀ a, x' = .ok a → x = .ok a
  error : ∀ e, x' = .error e → x = .error e ∨ broken e

namespace FailsSafely

variable {ε α β : Type} {broken : ε → Prop}

theorem refl (x : Except ε α) : FailsSafely broken x x := ⟨fun _ h => h, fun _ h => .inl h⟩

theorem of_eq {x' x : Except ε α} (h : x' = x) : FailsSafely broken x' x := by
  rw [h]
  exact refl x

/-- A failure that is broken stands beside any outcome. -/
theorem of_broken {e : ε} (he : broken e) (x : Except ε α) : FailsSafely broken (.error e) x := by
  constructor
  · intro a h
    cases h
  · intro e' h
    cases h
    exact .inr he

/-- Sequencing keeps two outcomes beside each other. -/
theorem bind {x' x : Except ε α} {f' f : α → Except ε β} (hx : FailsSafely broken x' x)
    (hf : ∀ a, FailsSafely broken (f' a) (f a)) : FailsSafely broken (x' >>= f') (x >>= f) := by
  cases hx' : x' with
  | ok a =>
    rw [hx.ok a hx']
    exact hf a
  | error e =>
    rcases hx.error e hx' with he | he
    · rw [he]
      exact refl _
    · exact of_broken he _

/-- A step that both outcomes take alike. -/
theorem map {x' x : Except ε α} (hx : FailsSafely broken x' x) (f : α → Except ε β) :
    FailsSafely broken (x' >>= f) (x >>= f) :=
  hx.bind fun a => refl (f a)

/-- Reads as steps of a search. -/
theorem orError {s' s : Segment} {x' x : Except Error α} (hx : FailsSafely (s'.BrokenRead s) x' x) :
    FailsSafely (s'.BrokenSearch s) (UsageIndex.orError x') (UsageIndex.orError x) := by
  cases hx' : x' with
  | ok a => exact of_eq (by rw [hx.ok a hx'])
  | error e =>
    rcases hx.error e hx' with he | he
    · exact of_eq (by rw [he])
    · exact of_broken ⟨e, rfl, he⟩ _

end FailsSafely

/-! ## Reads -/

section

variable {s' s : Segment} (h : s'.Breaks s)
include h

theorem postings_failsSafely (t : Term) :
    FailsSafely (s'.BrokenRead s) (s'.postings t) (s.postings t) := by
  by_cases heq : s'.postings t = s.postings t
  · exact .of_eq heq
  · obtain ⟨c, w, hc⟩ := (h.postings t).resolve_left heq
    rw [hc]
    exact .of_broken (.inl ⟨t, hc, heq⟩) _

theorem termsFrom_failsSafely (t : Term) :
    FailsSafely (s'.BrokenRead s) (s'.termsFrom t) (s.termsFrom t) := by
  by_cases heq : s'.termsFrom t = s.termsFrom t
  · exact .of_eq heq
  · obtain ⟨c, w, hc⟩ := (h.termsFrom t).resolve_left heq
    rw [hc]
    exact .of_broken (.inr ⟨t, hc, heq⟩) _

theorem addTerms_failsSafely (b : DocSet.Builder) (ts : List Term) :
    FailsSafely (s'.BrokenRead s) (addTerms s' b ts) (addTerms s b ts) := by
  induction ts generalizing b with
  | nil => exact .refl _
  | cons t ts ih =>
    unfold addTerms
    refine (postings_failsSafely h t).bind fun docs => ?_
    exact (FailsSafely.refl (b.addPostings docs)).bind ih

theorem termsSet_failsSafely (ts : List Term) :
    FailsSafely (s'.BrokenRead s) (termsSet s' ts) (termsSet s ts) := by
  unfold termsSet
  rw [h.maxDoc]
  exact (addTerms_failsSafely h _ ts).map _

theorem postingsSet_failsSafely (t : Term) :
    FailsSafely (s'.BrokenRead s) (postingsSet s' t) (postingsSet s t) := by
  rw [postingsSet_eq_termsSet, postingsSet_eq_termsSet]
  exact termsSet_failsSafely h [t]

theorem collectTerms_failsSafely (start : Term) (accept : String → Bool) :
    FailsSafely (s'.BrokenRead s) (collectTerms s' start accept) (collectTerms s start accept) := by
  rw [collectTerms_eq_termsSet, collectTerms_eq_termsSet]
  exact (termsFrom_failsSafely h start).bind fun _ => termsSet_failsSafely h _

theorem patternSet_failsSafely (p : PatternQuery) :
    FailsSafely (s'.BrokenRead s) (patternSet s' p) (patternSet s p) :=
  collectTerms_failsSafely h _ _

theorem packageNames_failsSafely (p : PackageNames) :
    FailsSafely (s'.BrokenRead s) (packageNames s' p) (packageNames s p) := by
  have hmap : ∀ s : Segment, packageNames s p = (do
      let terms ← s.termsFrom p.startTerm
      return OrderedSet.ofList (walkTerms p.classify terms)) := by
    intro s
    unfold packageNames
    cases s.termsFrom p.startTerm <;> rfl
  rw [hmap, hmap]
  exact (termsFrom_failsSafely h _).map _

end

/-! ## Filters -/

/-- A filter is a package filter, or does not read the segment: what it allows is told by the
document count. -/
def Filter.Tame (f : Filter) : Prop :=
  (∃ p : PackagesFilter, f.allowed = p.allowed) ∨
    ∀ s₁ s₂ : Segment, s₁.maxDoc = s₂.maxDoc → f.allowed s₁ = f.allowed s₂

theorem PackagesFilter.tame_toFilter (p : PackagesFilter) (tag : Nat) : (p.toFilter tag).Tame :=
  .inl ⟨p, rfl⟩

theorem allowed_failsSafely {s' s : Segment} (h : s'.Breaks s) {f : Filter} (hf : f.Tame) :
    FailsSafely (s'.BrokenRead s) (f.allowed s') (f.allowed s) := by
  rcases hf with ⟨p, hp⟩ | hsame
  · rw [hp, allowed_eq_termsSet, allowed_eq_termsSet]
    exact termsSet_failsSafely h _
  · exact .of_eq (hsame s' s h.maxDoc)

/-! ## Searches -/

section

variable {s' s : Segment} {cs : List (Occur × Query)}

/-- Clauses that must or may match, if each clause alone fails safely. -/
theorem executeClauses_failsSafely (required : Bool) (found : Option DocSet)
    (h : ∀ c ∈ cs, FailsSafely (s'.BrokenSearch s) (execute s' c.2) (execute s c.2)) :
    FailsSafely (s'.BrokenSearch s) (executeClauses s' required found cs)
      (executeClauses s required found cs) := by
  induction cs generalizing found with
  | nil => exact .of_eq (by rw [executeClauses, executeClauses])
  | cons c cs ih =>
    obtain ⟨o, q⟩ := c
    have hq := h (o, q) List.mem_cons_self
    have hcs := fun found => ih found fun c hc => h c (List.mem_cons_of_mem _ hc)
    by_cases hm : o = .must
    · subst hm
      rw [executeClauses_must, executeClauses_must]
      -- whether the clause is executed is told by what was found, which is the same for both
      by_cases hn : nothingLeft found = true
      · rw [if_pos hn, if_pos hn]
        exact hcs found
      · rw [if_neg hn, if_neg hn]
        exact hq.bind fun r => (FailsSafely.refl (narrow found r)).bind fun f => hcs (some f)
    · by_cases hs : o = .should ∧ required = false
      · obtain ⟨rfl, rfl⟩ := hs
        rw [executeClauses_should, executeClauses_should]
        exact hq.bind fun r => (FailsSafely.refl (widen found r)).bind fun f => hcs (some f)
      · have hskip : o = .should → required = true := by simpa using hs
        rw [executeClauses_skip s' required found q cs hm hskip,
          executeClauses_skip s required found q cs hm hskip]
        exact hcs found

/-- Clauses that must not match, if each clause alone fails safely. -/
theorem excludeClauses_failsSafely (found : DocSet)
    (h : ∀ c ∈ cs, FailsSafely (s'.BrokenSearch s) (execute s' c.2) (execute s c.2)) :
    FailsSafely (s'.BrokenSearch s) (excludeClauses s' found cs) (excludeClauses s found cs) := by
  induction cs generalizing found with
  | nil => exact .of_eq (by rw [excludeClauses, excludeClauses])
  | cons c cs ih =>
    obtain ⟨o, q⟩ := c
    have hq := h (o, q) List.mem_cons_self
    have hcs := fun found => ih found fun c hc => h c (List.mem_cons_of_mem _ hc)
    rw [excludeClauses, excludeClauses]
    by_cases ho : o = .mustNot ∧ found.isEmpty = false
    · rw [if_pos ho, if_pos ho]
      exact hq.bind fun r => (FailsSafely.refl _).bind hcs
    · rw [if_neg ho, if_neg ho]
      exact hcs found

end

/-- **Searches fail safely**, over filters that are tame. -/
theorem execute_failsSafely {s' s : Segment} (h : s'.Breaks s) (q : Query)
    (hq : ∀ f ∈ q.filters, f.Tame) :
    FailsSafely (s'.BrokenSearch s) (execute s' q) (execute s q) := by
  induction q with
  | term t =>
    rw [execute, execute]
    exact (postingsSet_failsSafely h t).orError
  | leading t =>
    rw [execute, execute]
    exact (collectTerms_failsSafely h t _).orError
  | wildcard p =>
    rw [execute, execute]
    exact (patternSet_failsSafely h p).orError
  | regexp p =>
    rw [execute, execute]
    exact (patternSet_failsSafely h p).orError
  | boolean cs ih =>
    have hcs : ∀ c ∈ cs, FailsSafely (s'.BrokenSearch s) (execute s' c.2) (execute s c.2) :=
      fun c hc => ih c hc fun f hf => hq f (Query.mem_filters_boolean hc hf)
    rw [execute, execute, h.maxDoc]
    exact (executeClauses_failsSafely _ none hcs).bind fun found =>
      excludeClauses_failsSafely _ hcs
  | filtered q f ih =>
    have hfilters : (Query.filtered q f).filters = f :: q.filters := by rw [Query.filters]
    rw [hfilters, List.forall_mem_cons] at hq
    rw [execute, execute]
    refine (ih hq.2).bind fun found => ?_
    by_cases he : found.isEmpty = true
    · rw [if_pos he, if_pos he]
      exact .refl _
    · rw [if_neg he, if_neg he]
      exact (allowed_failsSafely h hq.1).orError.map _

/-! ## Sessions -/

section

variable {o : SessionOptions} {session : Session} {s' s : Segment}
  (hs : Session.new o = .ok session) (h : s'.Breaks s)
include h

/-- A query without filters, within a scope. -/
theorem search_failsSafely {q : Query} (hq : q.filters = []) (scope : List ScopeElement) :
    FailsSafely (s'.BrokenSearch s) (session.search s' q scope) (session.search s q scope) := by
  unfold Session.search
  cases hscope : session.scopeFilter q scope 0 with
  | none => exact .of_eq (by simp only [h.maxDoc])
  | some q' =>
    refine execute_failsSafely h q' fun f hf => ?_
    rcases mem_filters_scopeFilter hscope hf with hf | ⟨packages, rfl⟩
    · rw [hq] at hf
      cases hf
    · exact PackagesFilter.tame_toFilter _ 0

include hs

theorem findUsages_failsSafely (name : String) (m : UsageMask) (operator : Occur)
    (scope : List ScopeElement) : FailsSafely (s'.BrokenSearch s)
      (session.findUsages s' name m operator scope)
      (session.findUsages s name m operator scope) := by
  unfold Session.findUsages
  cases hq : session.usagesQuery name m operator with
  | error e => exact .refl _
  | ok q => exact search_failsSafely h (Session.filters_usagesQuery hs hq) scope

theorem findPackageUsages_failsSafely (package : String) (m : UsageMask) (operator : Occur)
    (scope : List ScopeElement) : FailsSafely (s'.BrokenSearch s)
      (session.findPackageUsages s' package m operator scope)
      (session.findPackageUsages s package m operator scope) := by
  unfold Session.findPackageUsages
  cases hq : session.packageUsagesQuery package m operator with
  | error e => exact .refl _
  | ok q => exact search_failsSafely h (Session.filters_packageUsagesQuery hs hq) scope

end

/-- **Search over a broken segment.** Neither a search nor a call of a session takes a read that
failed for an answer. -/
theorem search_over_broken_segment {s' s : Segment} (h : s'.Breaks s) :
    (∀ q : Query, (∀ f ∈ q.filters, f.Tame) →
      FailsSafely (s'.BrokenSearch s) (execute s' q) (execute s q)) ∧
    ∀ (o : SessionOptions) (session : Session), Session.new o = .ok session →
      (∀ name m operator scope, FailsSafely (s'.BrokenSearch s)
        (session.findUsages s' name m operator scope)
        (session.findUsages s name m operator scope)) ∧
      (∀ package m operator scope, FailsSafely (s'.BrokenSearch s)
        (session.findPackageUsages s' package m operator scope)
        (session.findPackageUsages s package m operator scope)) ∧
      ∀ leading directOnly, FailsSafely (s'.BrokenRead s)
        (session.packageNames s' leading directOnly) (session.packageNames s leading directOnly) :=
  ⟨execute_failsSafely h, fun _ _ hs =>
    ⟨findUsages_failsSafely hs h, findPackageUsages_failsSafely hs h,
      fun _ _ => packageNames_failsSafely h _⟩⟩

/-- A document that carries `x` and one that carries `x` and `y`. -/
def twoDocuments : Segment :=
  (MemorySegment.ofDocuments [[⟨"r", "x"⟩], [⟨"r", "x"⟩, ⟨"r", "y"⟩]]).segment

/-- The same documents, where neither the postings of `y` nor the dictionary from the packages on
can be read. -/
def twoDocumentsBroken : Segment :=
  twoDocuments.withFaults ⟨[], [⟨"r", "y"⟩], ["packageName"], none, none⟩

/-- Whatever carries both `z` and `y`. -/
def bothQuery : Query := .boolean [(.must, .term ⟨"r", "z"⟩), (.must, .term ⟨"r", "y"⟩)]

/-- Nothing carries `z`, so that the search does not come to the postings of `y`. The names of the
packages need a read that fails. -/
theorem search_over_twoDocumentsBroken :
    twoDocumentsBroken.Breaks twoDocuments ∧
      execute twoDocuments bothQuery = .ok (DocSet.empty 2) ∧
      twoDocumentsBroken.BrokenRead twoDocuments
        (.indexUnavailable "terms from packageName:" "fault") := by
  have hbreaks : twoDocumentsBroken.Breaks twoDocuments :=
    Segment.withFaults_breaks twoDocuments rfl rfl
  obtain ⟨hsearch, hsession⟩ := search_over_broken_segment hbreaks
  have hfilters : bothQuery.filters = [] := by decide +kernel
  obtain ⟨-, -, hnames⟩ := hsession _ _ Session.new_standard
  refine ⟨hbreaks, (hsearch bothQuery ?_).ok _ (by decide +kernel), ?_⟩
  · rw [hfilters]
    exact fun f hf => absurd hf List.not_mem_nil
  · have hfails := (hnames none false).error (.indexUnavailable "terms from packageName:" "fault")
      (by decide +kernel)
    exact hfails.resolve_left (by decide +kernel)

end UsageIndex
