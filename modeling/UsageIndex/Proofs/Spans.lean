import UsageIndex.Proofs.Composition
import UsageIndex.Proofs.Postings

/-!
# Spans

Nothing is assumed of what a segment yields: its postings may be in any order, repeated or out of
span, and its dictionary may be any list of terms. Still every set that a search combines is of the
span of the segment, and postings out of span are reported.

* **`Ends`**: what a computation that ends well yields, and what is to blame if it breaks a
  precondition. It is kept by sequencing (`Ends.bind`).
* **`execute_ends`**: a search yields a set of the span of the segment, and only a filter that
  answers with a set of another span is to blame for a broken precondition.
* **`execute_term_fails_iff`**: when a search for a term fails.
-/

namespace UsageIndex

/-! ## How computations end -/

/-- How a computation ends: what it yields is good, and it breaks a precondition only if something
is to blame. -/
structure Ends {α : Type} (good : α → Prop) (blame : Prop) (x : Except Failure α) : Prop where
  ok : ∀ a, x = .ok a → good a
  violation : ∀ v, x = .error (.violation v) → blame

namespace Ends

variable {α β : Type} {good : α → Prop} {good' : β → Prop} {blame : Prop}

theorem of_ok {a : α} (h : good a) : Ends good blame (.ok a) := by
  constructor
  · rintro b ⟨⟩
    exact h
  · rintro v ⟨⟩

/-- A read breaks no precondition. -/
theorem orError {x : Except Error α} (h : ∀ a, x = .ok a → good a) :
    Ends good blame (UsageIndex.orError x) := by
  constructor
  · intro a ha
    exact h a (orError_eq_ok.mp ha)
  · intro v hv
    obtain ⟨e, -, he⟩ := orError_eq_error.mp hv
    cases he

/-- Sequencing. -/
theorem bind {x : Except Failure α} {f : α → Except Failure β} (hx : Ends good blame x)
    (hf : ∀ a, good a → Ends good' blame (f a)) : Ends good' blame (x >>= f) := by
  cases h : x with
  | ok a => exact hf a (hx.ok a h)
  | error e =>
    constructor
    · rintro b ⟨⟩
    · rintro v ⟨⟩
      exact hx.violation v h

theorem mono {blame' : Prop} {x : Except Failure α} (hx : Ends good blame x)
    (h : blame → blame') : Ends good blame' x :=
  ⟨hx.ok, fun v hv => h (hx.violation v hv)⟩

end Ends

/-! ## Reads -/

section

variable {s : Segment} {r : DocSet}

theorem addTerms_span {b b' : DocSet.Builder} {ts : List Term} (h : addTerms s b ts = .ok b') :
    b'.span = b.span := by
  induction ts generalizing b with
  | nil =>
    cases h
    rfl
  | cons t ts ih =>
    unfold addTerms at h
    cases hdocs : s.postings t with
    | error e =>
      rw [hdocs] at h
      cases h
    | ok docs =>
      cases hadd : b.addPostings docs with
      | error e =>
        simp only [hdocs, bind, Except.bind, hadd] at h
        cases h
      | ok b₁ =>
        simp only [hdocs, bind, Except.bind, hadd] at h
        rw [ih h, (DocSet.Builder.addPostings_eq_ok_iff.mp hadd).2, DocSet.Builder.span_mark]

/-- The set of some terms is of the span of the segment, whatever their postings are. -/
theorem termsSet_span {ts : List Term} (h : termsSet s ts = .ok r) : r.span = s.maxDoc := by
  unfold termsSet at h
  cases hb : addTerms s (DocSet.Builder.new s.maxDoc) ts with
  | error e =>
    rw [hb] at h
    cases h
  | ok b =>
    rw [hb] at h
    cases h
    exact addTerms_span hb

theorem collectTerms_span {start : Term} {accept : String → Bool}
    (h : collectTerms s start accept = .ok r) : r.span = s.maxDoc := by
  rw [collectTerms_eq_termsSet] at h
  cases hts : s.termsFrom start with
  | error e =>
    rw [hts] at h
    cases h
  | ok ts =>
    rw [hts] at h
    exact termsSet_span h

end

/-! ## Searches -/

/-- If a filter answers, it is with a set of the span of the segment. -/
def Filter.Fits (f : Filter) (s : Segment) : Prop := ∀ a, f.allowed s = .ok a → a.span = s.maxDoc

theorem PackagesFilter.fits_toFilter (p : PackagesFilter) (tag : Nat) (s : Segment) :
    (p.toFilter tag).Fits s := by
  intro a ha
  have hallowed : p.allowed s = .ok a := ha
  rw [allowed_eq_termsSet] at hallowed
  exact termsSet_span hallowed

section

variable {s : Segment} {blame : Prop} {cs : List (Occur × Query)}

/-- Clauses that must or may match, if each clause alone ends well. -/
theorem executeClauses_ends (required : Bool) {found : Option DocSet} (hf : Spans s.maxDoc found)
    (h : ∀ c ∈ cs, Ends (fun r => r.span = s.maxDoc) blame (execute s c.2)) :
    Ends (Spans s.maxDoc) blame (executeClauses s required found cs) := by
  induction cs generalizing found with
  | nil =>
    rw [executeClauses]
    exact .of_ok hf
  | cons c cs ih =>
    obtain ⟨o, q⟩ := c
    have hq := h (o, q) List.mem_cons_self
    have hcs : ∀ {found}, Spans s.maxDoc found →
        Ends (Spans s.maxDoc) blame (executeClauses s required found cs) :=
      fun hf => ih hf fun c hc => h c (List.mem_cons_of_mem _ hc)
    by_cases hm : o = .must
    · subst hm
      rw [executeClauses_must]
      by_cases hn : nothingLeft found = true
      · rw [if_pos hn]
        exact hcs hf
      · rw [if_neg hn]
        refine hq.bind fun r hr => ?_
        obtain ⟨f, hnarrow, hspan, -⟩ := narrow_spec hf hr
        rw [hnarrow]
        exact hcs (spans_some hspan)
    · by_cases hs : o = .should ∧ required = false
      · obtain ⟨rfl, rfl⟩ := hs
        rw [executeClauses_should]
        refine hq.bind fun r hr => ?_
        obtain ⟨f, hwiden, hspan, -⟩ := widen_spec hf hr
        rw [hwiden]
        exact hcs (spans_some hspan)
      · rw [executeClauses_skip s required found q cs hm (by simpa using hs)]
        exact hcs hf

/-- Clauses that must not match, if each clause alone ends well. -/
theorem excludeClauses_ends {found : DocSet} (hf : found.span = s.maxDoc)
    (h : ∀ c ∈ cs, Ends (fun r => r.span = s.maxDoc) blame (execute s c.2)) :
    Ends (fun r => r.span = s.maxDoc) blame (excludeClauses s found cs) := by
  induction cs generalizing found with
  | nil =>
    rw [excludeClauses]
    exact .of_ok hf
  | cons c cs ih =>
    obtain ⟨o, q⟩ := c
    have hcs : ∀ {found : DocSet}, found.span = s.maxDoc →
        Ends (fun r => r.span = s.maxDoc) blame (excludeClauses s found cs) :=
      fun hf => ih hf fun c hc => h c (List.mem_cons_of_mem _ hc)
    rw [excludeClauses]
    by_cases ho : o = .mustNot ∧ found.isEmpty = false
    · rw [if_pos ho]
      refine (h (o, q) List.mem_cons_self).bind fun r hr => ?_
      obtain ⟨f, hdifference, hspan, -⟩ := DocSet.difference_spec (hf.trans hr.symm)
      rw [hdifference]
      exact hcs (hspan.trans hf)
    · rw [if_neg ho]
      exact hcs hf

/-- A query under a filter, if the query alone ends well. A filter that does not fit is to blame. -/
theorem execute_filtered_ends {q : Query} {f : Filter}
    (h : Ends (fun r => r.span = s.maxDoc) blame (execute s q)) (hblame : ¬ f.Fits s → blame) :
    Ends (fun r => r.span = s.maxDoc) blame (execute s (.filtered q f)) := by
  rw [execute]
  refine h.bind fun found hfound => ?_
  by_cases he : found.isEmpty = true
  · rw [if_pos he]
    exact .of_ok hfound
  · rw [if_neg he]
    refine Ends.bind (.orError fun allowed hallowed => hallowed) fun allowed hallowed => ?_
    by_cases hspan : allowed.span = s.maxDoc
    · obtain ⟨r, hr, hrspan, -⟩ := DocSet.intersect_spec (hfound.trans hspan.symm)
      rw [hr]
      exact .of_ok (hrspan.trans hfound)
    · -- sets of two spans are not combined
      have hne : ¬ found.span = allowed.span := fun h => hspan (h.symm.trans hfound)
      have hmismatch : found.intersect allowed =
          .error (.spanMismatch found.span allowed.span) := dif_neg hne
      refine ⟨fun r hr => ?_, fun _ _ => hblame fun hfits => hspan (hfits allowed hallowed)⟩
      rw [hmismatch] at hr
      cases hr

end

/-- **How searches end.** The set is of the span of the segment, and only a filter that does not fit
is to blame for a broken precondition. -/
theorem execute_ends (s : Segment) (q : Query) :
    Ends (fun r => r.span = s.maxDoc) (∃ f ∈ q.filters, ¬ f.Fits s) (execute s q) := by
  induction q with
  | term t =>
    rw [execute, postingsSet_eq_termsSet]
    exact .orError fun r => termsSet_span
  | leading t =>
    rw [execute]
    exact .orError fun r => collectTerms_span
  | wildcard p =>
    rw [execute]
    exact .orError fun r => collectTerms_span
  | regexp p =>
    rw [execute]
    exact .orError fun r => collectTerms_span
  | boolean cs ih =>
    have hcs : ∀ c ∈ cs, Ends (fun r => r.span = s.maxDoc)
        (∃ f ∈ (Query.boolean cs).filters, ¬ f.Fits s) (execute s c.2) := fun c hc =>
      (ih c hc).mono (.imp fun _ => And.imp_left (Query.mem_filters_boolean hc))
    have hnone : Spans s.maxDoc none := by simp [Spans]
    rw [execute]
    refine (executeClauses_ends _ hnone hcs).bind fun found hfound => ?_
    refine excludeClauses_ends ?_ hcs
    cases found with
    | none => rfl
    | some r => exact hfound r rfl
  | filtered q f ih =>
    have hfilters : (Query.filtered q f).filters = f :: q.filters := by rw [Query.filters]
    rw [hfilters]
    exact execute_filtered_ends (ih.mono (.imp fun _ => And.imp_left (List.mem_cons_of_mem f)))
      fun hfits => ⟨f, List.mem_cons_self, hfits⟩

/-- **When a search for a term fails.** Postings that were read are reported exactly if one of them
is out of span. -/
theorem execute_term_fails_iff {s : Segment} {t : Term} {docs : List Nat}
    (h : s.postings t = .ok docs) :
    (∃ element message,
        execute s (.term t) = .error (.error (.invalidFormat element message))) ↔
      ∃ d ∈ docs, s.maxDoc ≤ d := by
  have hexecute : execute s (.term t) =
      orError ((DocSet.Builder.new s.maxDoc).addPostings docs >>= fun b => .ok b.build) := by
    rw [execute, postingsSet, h]
    rfl
  rw [hexecute]
  unfold DocSet.Builder.addPostings DocSet.Builder.tryExtend
  cases hfirst : (DocSet.Builder.new s.maxDoc).firstOutOfSpan? docs with
  | none =>
    have hbelow := DocSet.Builder.firstOutOfSpan?_eq_none_iff.mp hfirst
    constructor
    · rintro ⟨element, message, ⟨⟩⟩
    · rintro ⟨d, hd, hle⟩
      exact absurd (hbelow d hd) (Nat.not_lt.mpr hle)
  | some d =>
    exact ⟨fun _ => ⟨d, DocSet.Builder.mem_of_firstOutOfSpan?_eq_some hfirst⟩,
      fun _ => ⟨_, _, rfl⟩⟩

end UsageIndex
