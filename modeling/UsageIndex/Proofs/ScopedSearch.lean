import UsageIndex.Proofs.Satisfaction
import UsageIndex.Proofs.Spans
import UsageIndex.Session

/-!
# Restrictions of a search

The restriction that a scope puts on a search takes one of three ways: without packages the search
is not made, one package is a clause beside the query, and several are a filter over it. The way
does not show in what is found, nor does the manner in which the elements of the scope declare the
packages.

* **`scopedSearch`**: a search for any query within a scope.
* **`scopePackages_eq_none_iff`**, **`mem_scopePackages_iff_declares`**: what the elements of a
  scope declare together. **`scopePackages_congr`**: only the sets of packages that they declare
  count.
* **`scopedSearch_restricts`**: whatever a query finds in memory, within a scope it finds the
  documents of the declared packages among them.
-/

namespace UsageIndex

/-- The documents of a segment that a query describes within a scope, whose packages are terms of a
field. -/
def scopedSearch (s : Segment) (q : Query) (scope : List ScopeElement) (field : String)
    (tag : Nat) : Except Failure DocSet :=
  match scopeFilter q scope field tag with
  | some q' => execute s q'
  | none => .ok (DocSet.empty s.maxDoc)

/-- A session searches within a scope by its own field of packages. -/
theorem Session.search_eq_scopedSearch (session : Session) (s : Segment) (q : Query)
    (scope : List ScopeElement) :
    session.search s q scope = scopedSearch s q scope session.packageField 0 := rfl

/-! ## Declared packages -/

/-- Some element of a scope declares a package. -/
def Declares (scope : List ScopeElement) (p : String) : Prop :=
  ∃ e ∈ scope, ∃ ps, e.packages = some ps ∧ p ∈ ps

theorem addScopePackages_eq_none_iff {found : Option (OrderedSet String)}
    {scope : List ScopeElement} :
    addScopePackages found scope = none ↔ found = none ∧ ∀ e ∈ scope, e.packages = none := by
  induction scope generalizing found with
  | nil => simp [addScopePackages]
  | cons e es ih =>
    unfold addScopePackages
    cases he : e.packages with
    | none =>
      rw [ih]
      simp [he]
    | some ps =>
      simp only [ih]
      simp [he]

theorem mem_addScopePackages {found packages : Option (OrderedSet String)}
    {scope : List ScopeElement}
    (h : addScopePackages found scope = packages) (p : String) :
    (∃ ps ∈ packages, p ∈ ps) ↔
      (∃ ps ∈ found, p ∈ ps) ∨ ∃ e ∈ scope, ∃ ps, e.packages = some ps ∧ p ∈ ps := by
  induction scope generalizing found with
  | nil =>
    rw [← h]
    simp [addScopePackages]
  | cons e es ih =>
    unfold addScopePackages at h
    cases he : e.packages with
    | none =>
      simp only [he] at h
      rw [ih h]
      simp [he]
    | some qs =>
      simp only [he] at h
      have hunion : (∃ ps ∈ some ((found.getD OrderedSet.empty).union qs), p ∈ ps) ↔
          (∃ ps ∈ found, p ∈ ps) ∨ p ∈ qs := by
        cases found <;> simp
      rw [ih h, hunion, or_assoc]
      simp [he]

/-- No packages are declared together if no element declares any. -/
theorem scopePackages_eq_none_iff {scope : List ScopeElement} :
    scopePackages scope = none ↔ ∀ e ∈ scope, e.packages = none := by
  unfold scopePackages
  rw [addScopePackages_eq_none_iff]
  exact and_iff_right rfl

/-- **What the elements declare together** is what some element declares. -/
theorem mem_scopePackages_iff_declares {scope : List ScopeElement} {packages : OrderedSet String}
    (h : scopePackages scope = some packages) (p : String) : p ∈ packages ↔ Declares scope p := by
  have hmem := mem_addScopePackages h p
  simp only [Option.mem_def, Option.some.injEq, exists_eq_left', reduceCtorEq, false_and,
    exists_false, false_or] at hmem
  exact hmem

/-- The elements of two scopes declare the same sets of packages, in any order, any number of times,
over any part of a project and beside any elements that declare none. -/
def SameDeclarations (scope scope' : List ScopeElement) : Prop :=
  ∀ ps, (∃ e ∈ scope, e.packages = some ps) ↔ ∃ e ∈ scope', e.packages = some ps

section

variable {scope scope' : List ScopeElement} (h : SameDeclarations scope scope')
include h

theorem SameDeclarations.symm : SameDeclarations scope' scope := fun ps => (h ps).symm

theorem SameDeclarations.declares {p : String} (hp : Declares scope p) : Declares scope' p := by
  obtain ⟨e, he, ps, hps, hp⟩ := hp
  obtain ⟨e', he', hps'⟩ := (h ps).mp ⟨e, he, hps⟩
  exact ⟨e', he', ps, hps', hp⟩

theorem SameDeclarations.undeclared (hnone : ∀ e ∈ scope, e.packages = none) :
    ∀ e ∈ scope', e.packages = none := by
  intro e he
  cases hps : e.packages with
  | none => rfl
  | some ps =>
    obtain ⟨e', he', hps'⟩ := (h ps).mpr ⟨e, he, hps⟩
    rw [hnone e' he'] at hps'
    cases hps'

/-- **Only the sets that elements declare count.** -/
theorem scopePackages_congr : scopePackages scope = scopePackages scope' := by
  cases hscope : scopePackages scope with
  | none =>
    exact (scopePackages_eq_none_iff.mpr (h.undeclared (scopePackages_eq_none_iff.mp hscope))).symm
  | some packages =>
    cases hscope' : scopePackages scope' with
    | none =>
      rw [scopePackages_eq_none_iff.mpr (h.symm.undeclared (scopePackages_eq_none_iff.mp hscope'))]
        at hscope
      cases hscope
    | some packages' =>
      refine congrArg some (OrderedSet.ext fun p => ?_)
      rw [mem_scopePackages_iff_declares hscope, mem_scopePackages_iff_declares hscope']
      exact ⟨h.declares, h.symm.declares⟩

end

/-- Where no packages are declared, a scope leaves a query as it is. -/
theorem scopeFilter_of_undeclared {scope : List ScopeElement} (h : ∀ e ∈ scope, e.packages = none)
    (q : Query) (field : String) (tag : Nat) : scopeFilter q scope field tag = some q := by
  unfold scopeFilter
  rw [scopePackages_eq_none_iff.mpr h]

/-! ## What is found -/

theorem clauseRule_both {P : Query → Prop} {a b : Query} :
    ClauseRule P [(.must, a), (.must, b)] ↔ P a ∧ P b := by
  simp [ClauseRule]

namespace MemorySegment

variable {docs : List (List Term)} {q : Query} {r : DocSet}

/-- A query without filters. -/
theorem execute_unfiltered (docs : List (List Term)) {q : Query} (hq : q.filters = []) :
    ∃ r, execute (ofDocuments docs).segment q = .ok r ∧ r.span = docs.length ∧
      ∀ i, r.contains i = true ↔ Satisfies docs q i :=
  execute_spec docs q (by simp [hq])

/-- A query that was executed, beside a term. -/
theorem execute_beside_term (h : execute (ofDocuments docs).segment q = .ok r) (t : Term) :
    ∃ r', execute (ofDocuments docs).segment (.boolean [(.must, .term t), (.must, q)]) = .ok r' ∧
      r'.span = docs.length ∧ ∀ i, r'.contains i = true ↔ r.contains i = true ∧
        ∃ ts, docs[i]? = some ts ∧ t ∈ ts := by
  have hspan : (ofDocuments docs).segment.maxDoc = docs.length := maxDoc_ofDocuments docs
  obtain ⟨a, ha, haspan, hamem⟩ := execute_unfiltered docs (q := .term t) (by rw [Query.filters])
  have hanswers : ∀ c ∈ [(Occur.must, Query.term t), (Occur.must, q)],
      Answers (ofDocuments docs).segment c.2 := by
    simp only [List.forall_mem_cons, List.not_mem_nil, false_implies, implies_true, and_true]
    exact ⟨⟨a, ha, haspan.trans hspan.symm⟩, ⟨r, h, (execute_ends _ q).ok r h⟩⟩
  obtain ⟨r', hr', hr'span, hmem⟩ := execute_boolean hanswers
  refine ⟨r', hr', hr'span.trans hspan, fun i => ?_⟩
  rw [hmem i, clauseRule_both, finds_iff ha, finds_iff h, hamem i, and_comm]
  simp only [Satisfies, Query.Sat]

/-- A query that was executed, under a package filter. -/
theorem execute_under_packages (h : execute (ofDocuments docs).segment q = .ok r)
    (f : PackagesFilter) (tag : Nat) :
    ∃ r', execute (ofDocuments docs).segment (.filtered q (f.toFilter tag)) = .ok r' ∧
      r'.span = docs.length ∧ ∀ i, r'.contains i = true ↔ r.contains i = true ∧
        ∃ ts, docs[i]? = some ts ∧ ∃ p ∈ f.packages, Term.mk f.field p ∈ ts := by
  have hspan : (ofDocuments docs).segment.maxDoc = docs.length := maxDoc_ofDocuments docs
  obtain ⟨a, ha, haspan, hamem⟩ := allowed_spec docs f
  obtain ⟨r', hr', hr'span, hmem⟩ := execute_filtered (f := f.toFilter tag)
    ⟨r, h, (execute_ends _ q).ok r h⟩ ha (haspan.trans hspan.symm)
  refine ⟨r', hr', hr'span.trans hspan, fun i => ?_⟩
  rw [hmem i, finds_iff h, hamem i]

/-- The three ways to restrict a search to packages find the same. -/
theorem scopedSearch_spec (h : execute (ofDocuments docs).segment q = .ok r)
    {scope : List ScopeElement} {packages : OrderedSet String}
    (hscope : scopePackages scope = some packages) (field : String) (tag : Nat) :
    ∃ r', scopedSearch (ofDocuments docs).segment q scope field tag = .ok r' ∧
      r'.span = docs.length ∧ ∀ i, r'.contains i = true ↔ r.contains i = true ∧
        ∃ ts, docs[i]? = some ts ∧ ∃ p ∈ packages, Term.mk field p ∈ ts := by
  unfold scopedSearch scopeFilter
  simp only [hscope]
  cases hlist : packages.toList with
  | nil =>
    -- no package is left, and no document is found
    refine ⟨_, rfl, maxDoc_ofDocuments docs, fun i => ⟨nofun, ?_⟩⟩
    rintro ⟨-, ts, -, p, hp, -⟩
    rw [OrderedSet.mem_def, hlist] at hp
    cases hp
  | cons p ps =>
    cases ps with
    | nil =>
      have hmem : ∀ x, x ∈ packages ↔ x = p := by
        intro x
        rw [OrderedSet.mem_def, hlist, List.mem_singleton]
      simp only [hmem, exists_eq_left]
      exact execute_beside_term h ⟨field, p⟩
    | cons p' ps => exact execute_under_packages h ⟨field, packages⟩ tag

/-- **Restricted search.** A scope without declared packages leaves a query as it is. With declared
packages a search within the scope finds those documents among the ones that the query finds that
carry a declared package, be there none, one or many. Only the sets that the elements declare
count. -/
theorem scopedSearch_restricts (h : execute (ofDocuments docs).segment q = .ok r)
    (scope : List ScopeElement) (field : String) (tag : Nat) :
    ((∀ e ∈ scope, e.packages = none) → scopeFilter q scope field tag = some q) ∧
    ((¬ ∀ e ∈ scope, e.packages = none) →
      ∃ r', scopedSearch (ofDocuments docs).segment q scope field tag = .ok r' ∧
        r'.span = docs.length ∧ ∀ i, r'.contains i = true ↔ r.contains i = true ∧
          ∃ ts, docs[i]? = some ts ∧ ∃ p, Declares scope p ∧ Term.mk field p ∈ ts) ∧
    ∀ scope', SameDeclarations scope scope' →
      scopeFilter q scope' field tag = scopeFilter q scope field tag ∧
      scopedSearch (ofDocuments docs).segment q scope' field tag =
        scopedSearch (ofDocuments docs).segment q scope field tag := by
  refine ⟨fun hnone => scopeFilter_of_undeclared hnone q field tag, fun hsome => ?_,
    fun scope' hsame => ?_⟩
  · rw [← scopePackages_eq_none_iff] at hsome
    obtain ⟨packages, hscope⟩ := Option.ne_none_iff_exists'.mp hsome
    obtain ⟨r', hr', hspan, hmem⟩ := scopedSearch_spec h hscope field tag
    refine ⟨r', hr', hspan, fun i => ?_⟩
    rw [hmem i]
    simp only [mem_scopePackages_iff_declares hscope]
  · have hfilter : scopeFilter q scope' field tag = scopeFilter q scope field tag := by
      unfold scopeFilter
      rw [scopePackages_congr hsame]
    unfold scopedSearch
    rw [hfilter]
    exact ⟨rfl, rfl⟩

/-- Two scopes that declare the packages `a` and `c`. -/
def scopeOfTwo : List ScopeElement :=
  [ScopeElement.narrowed .source ["a"], ScopeElement.whole .dependencies,
    ScopeElement.narrowed .dependencies ["c"]]

/-- The same packages in another order, one of them twice, without the part that declares none. -/
def scopeOfTwoReordered : List ScopeElement :=
  [ScopeElement.narrowed .source ["c"], ScopeElement.narrowed .source ["a"],
    ScopeElement.narrowed .source ["a"]]

/-- Of the three documents those of the packages `a` and `c` are found, within either scope. -/
theorem scopedSearch_threeDocuments : ∃ r r',
    execute (ofDocuments threeDocuments).segment (.leading ⟨"r", "x"⟩) = .ok r ∧
      scopedSearch (ofDocuments threeDocuments).segment (.leading ⟨"r", "x"⟩) scopeOfTwo "p" 0 =
        .ok r' ∧
      scopedSearch (ofDocuments threeDocuments).segment (.leading ⟨"r", "x"⟩) scopeOfTwoReordered
        "p" 0 = .ok r' ∧
      r'.contains 0 = true ∧ r'.contains 1 = false ∧ r'.contains 2 = true := by
  obtain ⟨r, hr, -, hmem⟩ :=
    execute_unfiltered threeDocuments (q := .leading ⟨"r", "x"⟩) (by rw [Query.filters])
  obtain ⟨-, hrestricts, hsame⟩ := scopedSearch_restricts hr scopeOfTwo "p" 0
  obtain ⟨r', hr', -, hmem'⟩ := hrestricts (by simp [scopeOfTwo, ScopeElement.narrowed])
  have hdeclarations : SameDeclarations scopeOfTwo scopeOfTwoReordered := by
    intro ps
    simp [scopeOfTwo, scopeOfTwoReordered, ScopeElement.narrowed, ScopeElement.whole, or_comm]
  have hdeclares : ∀ p, Declares scopeOfTwo p ↔ p = "a" ∨ p = "c" := by
    intro p
    simp [Declares, scopeOfTwo, ScopeElement.narrowed, ScopeElement.whole]
  refine ⟨r, r', hr, hr', (hsame _ hdeclarations).2.trans hr', (hmem' 0).mpr ?_, ?_,
    (hmem' 2).mpr ?_⟩
  · rw [hmem 0]
    simp [Satisfies, Query.Sat, threeDocuments, hdeclares, Text.startsWith]
  · rw [← Bool.not_eq_true, hmem' 1]
    simp [threeDocuments, hdeclares]
  · rw [hmem 2]
    simp [Satisfies, Query.Sat, threeDocuments, hdeclares, Text.startsWith]

end MemorySegment

end UsageIndex
