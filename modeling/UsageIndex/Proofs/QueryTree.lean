import UsageIndex.Query

/-!
# The tree of a query

* **`Query.induct`**: induction over queries, with one hypothesis for each clause of a boolean
  query.
* **`Query.filters`**, **`Query.terms`**: the filters and the terms of a query, at any depth.
* **`ClauseRule`**: when a boolean query holds, told from what holds of its clauses.
-/

namespace UsageIndex.Query

/-- Induction over queries. -/
@[elab_as_elim, induction_eliminator]
theorem induct {motive : Query → Prop}
    (term : ∀ t, motive (.term t))
    (leading : ∀ t, motive (.leading t))
    (wildcard : ∀ p, motive (.wildcard p))
    (regexp : ∀ p, motive (.regexp p))
    (boolean : ∀ cs : List (Occur × Query), (∀ c ∈ cs, motive c.2) → motive (.boolean cs))
    (filtered : ∀ q f, motive q → motive (.filtered q f))
    (q : Query) : motive q :=
  @Query.rec motive (fun cs => ∀ c ∈ cs, motive c.2) (fun c => motive c.2)
    term leading wildcard regexp boolean filtered
    (fun c hc => absurd hc List.not_mem_nil)
    (fun c cs ih ihs d hd => by
      rcases List.mem_cons.mp hd with rfl | hd
      · exact ih
      · exact ihs d hd)
    (fun _ _ ih => ih) q

mutual

/-- The filters of a query. -/
def filters : Query → List Filter
  | term _ => []
  | leading _ => []
  | wildcard _ => []
  | regexp _ => []
  | boolean cs => filtersOfClauses cs
  | filtered q f => f :: q.filters

/-- The filters of clauses. -/
def filtersOfClauses : List (Occur × Query) → List Filter
  | [] => []
  | (_, q) :: cs => q.filters ++ filtersOfClauses cs

end

theorem mem_filtersOfClauses {cs : List (Occur × Query)} {f : Filter} :
    f ∈ filtersOfClauses cs ↔ ∃ c ∈ cs, f ∈ c.2.filters := by
  induction cs with
  | nil => simp [filtersOfClauses]
  | cons c cs ih =>
    simp only [filtersOfClauses, List.mem_append, ih, List.mem_cons, exists_eq_or_imp]

/-- The filters of a clause are filters of the query. -/
theorem mem_filters_boolean {cs : List (Occur × Query)} {c : Occur × Query} (hc : c ∈ cs)
    {f : Filter} (hf : f ∈ c.2.filters) : f ∈ (boolean cs).filters := by
  unfold filters
  exact mem_filtersOfClauses.mpr ⟨c, hc, hf⟩

/-- A boolean query has no filters if its clauses have none. -/
theorem filters_boolean_eq_nil {cs : List (Occur × Query)} (h : ∀ c ∈ cs, c.2.filters = []) :
    (boolean cs).filters = [] := by
  rw [List.eq_nil_iff_forall_not_mem]
  intro f hf
  rw [filters, mem_filtersOfClauses] at hf
  obtain ⟨c, hc, hf⟩ := hf
  rw [h c hc] at hf
  cases hf

mutual

/-- The terms of a query. -/
def terms : Query → List Term
  | term t => [t]
  | leading t => [t]
  | wildcard p => [p.term]
  | regexp p => [p.term]
  | boolean cs => termsOfClauses cs
  | filtered q _ => q.terms

/-- The terms of clauses. -/
def termsOfClauses : List (Occur × Query) → List Term
  | [] => []
  | (_, q) :: cs => q.terms ++ termsOfClauses cs

end

theorem mem_termsOfClauses {cs : List (Occur × Query)} {t : Term} :
    t ∈ termsOfClauses cs ↔ ∃ c ∈ cs, t ∈ c.2.terms := by
  induction cs with
  | nil => simp [termsOfClauses]
  | cons c cs ih =>
    simp only [termsOfClauses, List.mem_append, ih, List.mem_cons, exists_eq_or_imp]

end UsageIndex.Query

namespace UsageIndex

/-- The rule about the clauses of a boolean query: with a clause that must match, all of those have
to hold, and without one, one of those that may match; and none of those that must not match. -/
def ClauseRule (P : Query → Prop) (cs : List (Occur × Query)) : Prop :=
  (if ∃ c ∈ cs, c.1 = .must then ∀ c ∈ cs, c.1 = .must → P c.2
    else ∃ c ∈ cs, c.1 = .should ∧ P c.2) ∧
  ∀ c ∈ cs, c.1 = .mustNot → ¬ P c.2

theorem clauseRule_congr {P Q : Query → Prop} {cs : List (Occur × Query)}
    (h : ∀ c ∈ cs, (P c.2 ↔ Q c.2)) : ClauseRule P cs ↔ ClauseRule Q cs := by
  have hall : (∀ c ∈ cs, c.1 = .must → P c.2) ↔ ∀ c ∈ cs, c.1 = .must → Q c.2 :=
    forall₂_congr fun c hc => imp_congr_right fun _ => h c hc
  have hsome : (∃ c ∈ cs, c.1 = .should ∧ P c.2) ↔ ∃ c ∈ cs, c.1 = .should ∧ Q c.2 :=
    exists_congr fun c => and_congr_right fun hc => and_congr_right fun _ => h c hc
  have hnone : (∀ c ∈ cs, c.1 = .mustNot → ¬ P c.2) ↔ ∀ c ∈ cs, c.1 = .mustNot → ¬ Q c.2 :=
    forall₂_congr fun c hc => imp_congr_right fun _ => not_congr (h c hc)
  unfold ClauseRule
  rw [hall, hsome, hnone]

/-- The rule about clauses all of which may match. -/
theorem clauseRule_should {P : Query → Prop} {cs : List (Occur × Query)}
    (h : ∀ c ∈ cs, c.1 = .should) : ClauseRule P cs ↔ ∃ c ∈ cs, P c.2 := by
  have hother : ∀ o' c, c ∈ cs → o' ≠ .should → c.1 ≠ o' := by
    intro o' c hc ho he
    exact ho (he.symm.trans (h c hc))
  have hmust : ¬ ∃ c ∈ cs, c.1 = .must := fun ⟨c, hc, ho⟩ => hother .must c hc (by decide) ho
  unfold ClauseRule
  rw [if_neg hmust]
  constructor
  · rintro ⟨⟨c, hc, -, hP⟩, -⟩
    exact ⟨c, hc, hP⟩
  · rintro ⟨c, hc, hP⟩
    exact ⟨⟨c, hc, h c hc, hP⟩, fun c hc ho => absurd ho (hother .mustNot c hc (by decide))⟩

end UsageIndex
