import UsageIndex.Proofs.QueryTree
import UsageIndex.Proofs.SetMembers
import UsageIndex.Search

/-!
# What composed queries find

The documents that a boolean or a filtered query finds, told from what its parts find, on any
segment. The short cuts of the search (clauses that are not executed, a filter that is not asked)
leave the set as it is.

* **`execute_boolean`**: if the clauses have answers, so has the boolean query, and it finds what
  the rule about its clauses says (`ClauseRule`).
* **`execute_filtered`**: the same for a query with a filter.
-/

namespace UsageIndex

variable {s : Segment} {cs : List (Occur × Query)} {q : Query} {i : Nat}

/-- A query has an answer, and its span is that of the segment. -/
def Answers (s : Segment) (q : Query) : Prop := ∃ r, execute s q = .ok r ∧ r.span = s.maxDoc

/-- A query finds a document. -/
def Finds (s : Segment) (q : Query) (i : Nat) : Prop :=
  ∃ r, execute s q = .ok r ∧ r.contains i = true

theorem finds_iff {r : DocSet} (h : execute s q = .ok r) : Finds s q i ↔ r.contains i = true := by
  unfold Finds
  rw [h]
  simp only [Except.ok.injEq, exists_eq_left']

/-! ## Clauses -/

/-- All that has been found, if anything has, is of one span. -/
def Spans (n : Nat) (found : Option DocSet) : Prop := ∀ r ∈ found, r.span = n

/-- A document is left over by the clauses that must match; before the first of them every document
is. -/
def Left (found : Option DocSet) (i : Nat) : Prop := ∀ r ∈ found, r.contains i = true

/-- A document has been found by the clauses that may match; before the first of them none is. -/
def Met (found : Option DocSet) (i : Nat) : Prop := ∃ r ∈ found, r.contains i = true

theorem executeClauses_must (s : Segment) (required : Bool) (found : Option DocSet) (q : Query)
    (cs : List (Occur × Query)) : executeClauses s required found ((.must, q) :: cs) =
      if nothingLeft found then executeClauses s required found cs
      else (do
        let r ← execute s q
        let found' ← narrow found r
        executeClauses s required (some found') cs) := by
  rw [executeClauses, if_pos rfl]

theorem executeClauses_should (s : Segment) (found : Option DocSet) (q : Query)
    (cs : List (Occur × Query)) : executeClauses s false found ((.should, q) :: cs) = (do
      let r ← execute s q
      let found' ← widen found r
      executeClauses s false (some found') cs) := by
  rw [executeClauses, if_neg (by decide), if_pos ⟨rfl, rfl⟩]

/-- A clause that is not executed changes nothing. -/
theorem executeClauses_skip (s : Segment) (required : Bool) (found : Option DocSet) {o : Occur}
    (q : Query) (cs : List (Occur × Query)) (hm : o ≠ .must) (hs : o = .should → required = true) :
    executeClauses s required found ((o, q) :: cs) = executeClauses s required found cs := by
  rw [executeClauses, if_neg hm, if_neg]
  rintro ⟨ho, hr⟩
  rw [hs ho] at hr
  cases hr

theorem narrow_spec {n : Nat} {found : Option DocSet} {r : DocSet} (hf : Spans n found)
    (hr : r.span = n) : ∃ f, narrow found r = .ok f ∧ f.span = n ∧
      ∀ i, f.contains i = true ↔ Left found i ∧ r.contains i = true := by
  cases found with
  | none => exact ⟨r, rfl, hr, fun i => by simp [Left]⟩
  | some f =>
    obtain ⟨f', hf', hspan, hmem⟩ := DocSet.intersect_spec ((hf f rfl).trans hr.symm)
    refine ⟨f', by simp only [narrow, hf', orViolation], hspan.trans (hf f rfl), ?_⟩
    intro i
    rw [hmem i]
    simp [Left]

theorem widen_spec {n : Nat} {found : Option DocSet} {r : DocSet} (hf : Spans n found)
    (hr : r.span = n) : ∃ f, widen found r = .ok f ∧ f.span = n ∧
      ∀ i, f.contains i = true ↔ Met found i ∨ r.contains i = true := by
  cases found with
  | none => exact ⟨r, rfl, hr, fun i => by simp [Met]⟩
  | some f =>
    obtain ⟨f', hf', hspan, hmem⟩ := DocSet.union_spec ((hf f rfl).trans hr.symm)
    refine ⟨f', by simp only [widen, hf', orViolation], hspan.trans (hf f rfl), ?_⟩
    intro i
    rw [hmem i]
    simp [Met]

theorem spans_some {n : Nat} {f : DocSet} (h : f.span = n) : Spans n (some f) := by
  rintro r ⟨rfl⟩
  exact h

theorem left_some {f : DocSet} : Left (some f) i ↔ f.contains i = true := by simp [Left]

theorem met_some {f : DocSet} : Met (some f) i ↔ f.contains i = true := by simp [Met]

/-- Where nothing is left, no document is. -/
theorem not_left_of_nothingLeft {found : Option DocSet} (h : nothingLeft found = true) :
    ¬ Left found i := by
  cases found with
  | none => cases h
  | some f =>
    rw [left_some, DocSet.contains_of_isEmpty h]
    exact Bool.false_ne_true

theorem isSome_of_nothingLeft {found : Option DocSet} (h : nothingLeft found = true) :
    found.isSome = true := by
  cases found with
  | none => cases h
  | some f => rfl

/-- The clauses that must match leave over what each of them finds. -/
theorem executeClauses_required {found : Option DocSet}
    (h : ∀ c ∈ cs, c.1 = .must → Answers s c.2) (hf : Spans s.maxDoc found) :
    ∃ out, executeClauses s true found cs = .ok out ∧ Spans s.maxDoc out ∧
      (out.isSome = true ↔ found.isSome = true ∨ ∃ c ∈ cs, c.1 = .must) ∧
      ∀ i, Left out i ↔ Left found i ∧ ∀ c ∈ cs, c.1 = .must → Finds s c.2 i := by
  induction cs generalizing found with
  | nil => exact ⟨found, by rw [executeClauses], hf, by simp, fun i => by simp⟩
  | cons c cs ih =>
    obtain ⟨o, q⟩ := c
    have hcs : ∀ c ∈ cs, c.1 = .must → Answers s c.2 := fun c hc => h c (List.mem_cons_of_mem _ hc)
    by_cases ho : o = .must
    · subst ho
      rw [executeClauses_must]
      by_cases hn : nothingLeft found = true
      · -- nothing is left, so that the clause could not take anything away
        rw [if_pos hn]
        obtain ⟨out, hout, hspan, hsome, hleft⟩ := ih hcs hf
        refine ⟨out, hout, hspan, by rw [hsome]; simp [isSome_of_nothingLeft hn], ?_⟩
        intro i
        have hnone := not_left_of_nothingLeft (i := i) hn
        rw [hleft i]
        exact ⟨fun hi => absurd hi.1 hnone, fun hi => absurd hi.1 hnone⟩
      · rw [if_neg hn]
        obtain ⟨r, hr, hrspan⟩ := h (.must, q) List.mem_cons_self rfl
        obtain ⟨f, hf', hfspan, hfmem⟩ := narrow_spec hf hrspan
        obtain ⟨out, hout, hspan, hsome, hleft⟩ := ih hcs (spans_some hfspan)
        refine ⟨out, ?_, hspan, by rw [hsome]; simp, fun i => ?_⟩
        · simp only [hr, bind, Except.bind, hf']
          exact hout
        · rw [hleft i, left_some, hfmem i, and_assoc]
          simp only [List.mem_cons, forall_eq_or_imp, forall_const, finds_iff hr]
    · obtain ⟨out, hout, hspan, hsome, hleft⟩ := ih hcs hf
      rw [executeClauses_skip s true found q cs ho fun _ => rfl]
      refine ⟨out, hout, hspan, by rw [hsome]; simp [ho], ?_⟩
      intro i
      rw [hleft i]
      simp [ho]

/-- The clauses that may match put together what each of them finds. -/
theorem executeClauses_optional {found : Option DocSet} (hno : ∀ c ∈ cs, c.1 ≠ .must)
    (h : ∀ c ∈ cs, c.1 = .should → Answers s c.2) (hf : Spans s.maxDoc found) :
    ∃ out, executeClauses s false found cs = .ok out ∧ Spans s.maxDoc out ∧
      ∀ i, Met out i ↔ Met found i ∨ ∃ c ∈ cs, c.1 = .should ∧ Finds s c.2 i := by
  induction cs generalizing found with
  | nil => exact ⟨found, by rw [executeClauses], hf, fun i => by simp⟩
  | cons c cs ih =>
    obtain ⟨o, q⟩ := c
    have hcs : ∀ c ∈ cs, c.1 = .should → Answers s c.2 := fun c hc =>
      h c (List.mem_cons_of_mem _ hc)
    have hnocs : ∀ c ∈ cs, c.1 ≠ .must := fun c hc => hno c (List.mem_cons_of_mem _ hc)
    by_cases ho : o = .should
    · subst ho
      rw [executeClauses_should]
      obtain ⟨r, hr, hrspan⟩ := h (.should, q) List.mem_cons_self rfl
      obtain ⟨f, hf', hfspan, hfmem⟩ := widen_spec hf hrspan
      obtain ⟨out, hout, hspan, hmet⟩ := ih hnocs hcs (spans_some hfspan)
      refine ⟨out, ?_, hspan, fun i => ?_⟩
      · simp only [hr, bind, Except.bind, hf']
        exact hout
      · rw [hmet i, met_some, hfmem i, or_assoc]
        simp only [List.mem_cons, exists_eq_or_imp, true_and, finds_iff hr]
    · obtain ⟨out, hout, hspan, hmet⟩ := ih hnocs hcs hf
      rw [executeClauses_skip s false found q cs (hno (o, q) List.mem_cons_self)
        fun h => absurd h ho]
      refine ⟨out, hout, hspan, ?_⟩
      intro i
      rw [hmet i]
      simp [ho]

/-- The clauses that must not match take away what each of them finds. -/
theorem excludeClauses_spec {found : DocSet} (h : ∀ c ∈ cs, c.1 = .mustNot → Answers s c.2)
    (hf : found.span = s.maxDoc) :
    ∃ out, excludeClauses s found cs = .ok out ∧ out.span = s.maxDoc ∧
      ∀ i, out.contains i = true ↔
        found.contains i = true ∧ ∀ c ∈ cs, c.1 = .mustNot → ¬ Finds s c.2 i := by
  induction cs generalizing found with
  | nil => exact ⟨found, by rw [excludeClauses], hf, fun i => by simp⟩
  | cons c cs ih =>
    obtain ⟨o, q⟩ := c
    have hcs : ∀ c ∈ cs, c.1 = .mustNot → Answers s c.2 := fun c hc =>
      h c (List.mem_cons_of_mem _ hc)
    rw [excludeClauses]
    by_cases ho : o = .mustNot ∧ found.isEmpty = false
    · obtain ⟨rfl, hne⟩ := ho
      rw [if_pos ⟨rfl, hne⟩]
      obtain ⟨r, hr, hrspan⟩ := h (.mustNot, q) List.mem_cons_self rfl
      obtain ⟨f', hf', hspan', hmem'⟩ := DocSet.difference_spec (hf.trans hrspan.symm)
      have hfspan : f'.span = s.maxDoc := hspan'.trans hf
      obtain ⟨out, hout, hspan, hmem⟩ := ih hcs hfspan
      refine ⟨out, ?_, hspan, fun i => ?_⟩
      · simp only [hr, bind, Except.bind, hf', orViolation]
        exact hout
      · rw [hmem i, hmem' i, and_assoc]
        simp only [List.mem_cons, forall_eq_or_imp, forall_const, finds_iff hr]
    · rw [if_neg ho]
      obtain ⟨out, hout, hspan, hmem⟩ := ih hcs hf
      refine ⟨out, hout, hspan, ?_⟩
      intro i
      rw [hmem i]
      simp only [List.mem_cons, forall_eq_or_imp]
      refine and_congr_right fun hi => ⟨fun hrest => ⟨fun hm => ?_, hrest⟩, fun hall => hall.2⟩
      -- the clause was passed over because nothing had been found, but `i` has
      have hempty : found.isEmpty = true := by simpa [hm] using ho
      rw [DocSet.contains_of_isEmpty hempty] at hi
      cases hi

/-! ## Composed queries -/

theorem hasRequired_iff : hasRequired cs = true ↔ ∃ c ∈ cs, c.1 = .must := by
  unfold hasRequired
  simp only [List.any_eq_true, beq_iff_eq]

/-- **Boolean queries.** If the clauses have answers, the query has one: what the rule about its
clauses says. -/
theorem execute_boolean (h : ∀ c ∈ cs, Answers s c.2) :
    ∃ r, execute s (.boolean cs) = .ok r ∧ r.span = s.maxDoc ∧
      ∀ i, r.contains i = true ↔ ClauseRule (fun q => Finds s q i) cs := by
  obtain ⟨out, hout, hspan, hmem⟩ : ∃ out, executeClauses s (hasRequired cs) none cs = .ok out ∧
      Spans s.maxDoc out ∧ ∀ i, (out.getD (DocSet.empty s.maxDoc)).contains i = true ↔
        if ∃ c ∈ cs, c.1 = .must then ∀ c ∈ cs, c.1 = .must → Finds s c.2 i
          else ∃ c ∈ cs, c.1 = .should ∧ Finds s c.2 i := by
    have hnone : Spans s.maxDoc none := by simp [Spans]
    by_cases hreq : ∃ c ∈ cs, c.1 = .must
    · obtain ⟨out, hout, hspan, hsome, hleft⟩ := executeClauses_required
        (fun c hc _ => h c hc) hnone
      rw [hasRequired_iff.mpr hreq]
      refine ⟨out, hout, hspan, ?_⟩
      intro i
      obtain ⟨r, rfl⟩ := Option.isSome_iff_exists.mp (hsome.mpr (.inr hreq))
      rw [if_pos hreq]
      have := hleft i
      simpa [Left] using this
    · obtain ⟨out, hout, hspan, hmet⟩ := executeClauses_optional
        (fun c hc hm => hreq ⟨c, hc, hm⟩) (fun c hc _ => h c hc) hnone
      have hfalse : hasRequired cs = false := by
        rw [← Bool.not_eq_true, hasRequired_iff]
        exact hreq
      rw [hfalse]
      refine ⟨out, hout, hspan, ?_⟩
      intro i
      rw [if_neg hreq]
      have hi := hmet i
      simp only [Met, Option.mem_def, reduceCtorEq, false_and, exists_false, false_or] at hi
      rw [← hi]
      cases out <;> simp
  have hspan' : (out.getD (DocSet.empty s.maxDoc)).span = s.maxDoc := by
    cases out with
    | none => rfl
    | some r => exact hspan r rfl
  obtain ⟨r, hr, hrspan, hrmem⟩ := excludeClauses_spec (fun c hc _ => h c hc) hspan'
  refine ⟨r, ?_, hrspan, fun i => ?_⟩
  · rw [execute]
    simp only [hout, bind, Except.bind]
    exact hr
  · rw [hrmem i, hmem i]
    rfl

/-- **Filtered queries.** If the query and the filter have answers, the filtered query has one: what
both allow. -/
theorem execute_filtered {f : Filter} {allowed : DocSet} (h : Answers s q)
    (hf : f.allowed s = .ok allowed) (hspan : allowed.span = s.maxDoc) :
    ∃ r, execute s (.filtered q f) = .ok r ∧ r.span = s.maxDoc ∧
      ∀ i, r.contains i = true ↔ Finds s q i ∧ allowed.contains i = true := by
  obtain ⟨found, hfound, hfspan⟩ := h
  rw [execute]
  simp only [hfound, bind, Except.bind, hf, orError]
  by_cases he : found.isEmpty = true
  · rw [if_pos he]
    refine ⟨found, rfl, hfspan, ?_⟩
    intro i
    rw [finds_iff hfound, DocSet.contains_of_isEmpty he]
    simp
  · rw [if_neg he]
    obtain ⟨r, hr, hrspan, hmem⟩ := DocSet.intersect_spec (hfspan.trans hspan.symm)
    refine ⟨r, by simp only [hr, orViolation], hrspan.trans hfspan, ?_⟩
    intro i
    rw [hmem i, finds_iff hfound]

end UsageIndex
