import UsageIndex.Proofs.Composition
import UsageIndex.Proofs.Dictionary
import UsageIndex.Proofs.QueryTree

/-!
# Search and satisfaction

Whether a query describes a document can be told from the terms of that document alone
(`Query.Sat`), without a dictionary, postings or an order of reads. Search in a segment in memory
finds exactly the documents that the query describes.

* **`MemorySegment.execute_spec`**: a search finds the documents that satisfy the query.
* **`MemorySegment.allows_packages`**: a package filter allows the documents of its packages.
* **`MemorySegment.execute_finds_satisfying`**: both together.
-/

namespace UsageIndex

/-! ## Satisfaction -/

/-- Some term of the pattern's field begins with the literal prefix and matches. -/
def PatternQuery.Sat (p : PatternQuery) (ts : List Term) : Prop :=
  ∃ t ∈ ts, t.field = p.term.field ∧ Text.startsWith t.text p.literalPrefix = true ∧
    p.isMatch t.text = true

namespace Query

mutual

/-- A query describes a document that carries the terms `ts`, where `allows` tells which filters
allow the document. With a clause that must match, all of those have to be satisfied, and without
one, one of those that may match; and none of those that must not match. -/
def Sat (allows : Filter → Prop) (ts : List Term) : Query → Prop
  | term t => t ∈ ts
  | leading t => ∃ u ∈ ts, u.field = t.field ∧ Text.startsWith u.text t.text = true
  | wildcard p => p.Sat ts
  | regexp p => p.Sat ts
  | boolean cs =>
    (if ∃ c ∈ cs, c.1 = .must then EverySat allows ts .must cs else SomeSat allows ts .should cs) ∧
      ¬ SomeSat allows ts .mustNot cs
  | filtered q f => Sat allows ts q ∧ allows f

/-- Every clause with an operator is satisfied. -/
def EverySat (allows : Filter → Prop) (ts : List Term) (o : Occur) : List (Occur × Query) → Prop
  | [] => True
  | (o', q) :: cs => (o' = o → Sat allows ts q) ∧ EverySat allows ts o cs

/-- Some clause with an operator is satisfied. -/
def SomeSat (allows : Filter → Prop) (ts : List Term) (o : Occur) : List (Occur × Query) → Prop
  | [] => False
  | (o', q) :: cs => (o' = o ∧ Sat allows ts q) ∨ SomeSat allows ts o cs

end

variable {allows : Filter → Prop} {ts : List Term} {o : Occur} {cs : List (Occur × Query)}

theorem everySat_iff : EverySat allows ts o cs ↔ ∀ c ∈ cs, c.1 = o → Sat allows ts c.2 := by
  induction cs with
  | nil => simp [EverySat]
  | cons c cs ih => simp only [EverySat, ih, List.mem_cons, forall_eq_or_imp]

theorem someSat_iff : SomeSat allows ts o cs ↔ ∃ c ∈ cs, c.1 = o ∧ Sat allows ts c.2 := by
  induction cs with
  | nil => simp [SomeSat]
  | cons c cs ih => simp only [SomeSat, ih, List.mem_cons, exists_eq_or_imp]

theorem sat_boolean : Sat allows ts (boolean cs) ↔ ClauseRule (Sat allows ts) cs := by
  unfold ClauseRule
  simp only [Sat, everySat_iff, someSat_iff, not_exists, not_and]

/-- Clauses all of which may match. -/
theorem sat_should (h : ∀ c ∈ cs, c.1 = .should) :
    Sat allows ts (boolean cs) ↔ ∃ c ∈ cs, Sat allows ts c.2 :=
  sat_boolean.trans (clauseRule_should h)

end Query

/-! ## Search in memory -/

namespace MemorySegment

variable {docs : List (List Term)}

/-- In memory the set of some terms can always be had. -/
theorem termsSet_memory (docs : List (List Term)) (us : List Term) :
    ∃ r, termsSet (ofDocuments docs).segment us = .ok r ∧ r.span = docs.length ∧
      ∀ i, r.contains i = true ↔ ∃ t ∈ us, Carries docs i t := by
  have hspan : (ofDocuments docs).segment.maxDoc = docs.length := maxDoc_ofDocuments docs
  have hread : ∀ t ∈ us, ∃ ds, (ofDocuments docs).segment.postings t = .ok ds ∧
      ∀ d ∈ ds, d < (ofDocuments docs).segment.maxDoc := fun t _ =>
    ⟨_, rfl, fun d hd => by rw [hspan]; exact (mem_postings.mp hd).lt⟩
  obtain ⟨r, hr, hrspan, hmem⟩ := termsSet_spec hread
  refine ⟨r, hr, hrspan.trans hspan, ?_⟩
  intro i
  rw [hmem i]
  refine exists_congr fun t => and_congr_right fun _ => ?_
  rw [← mem_postings]
  constructor
  · rintro ⟨ds, he, hd⟩
    cases he
    exact hd
  · exact fun hd => ⟨_, rfl, hd⟩

/-- A search along the dictionary finds the documents with an accepted term of the run. -/
theorem collectTerms_memory (docs : List (List Term)) (start : Term) (accept : String → Bool) :
    ∃ r, collectTerms (ofDocuments docs).segment start accept = .ok r ∧ r.span = docs.length ∧
      ∀ i, r.contains i = true ↔
        ∃ ts, docs[i]? = some ts ∧ ∃ u ∈ ts, InRun start u ∧ accept u.text = true := by
  obtain ⟨r, hr, hspan, hmem⟩ := termsSet_memory docs
    (acceptedRun start accept ((ofDocuments docs).termsFrom start))
  refine ⟨r, ?_, hspan, fun i => ?_⟩
  · rw [collectTerms_eq_termsSet]
    exact hr
  · rw [hmem i]
    constructor
    · rintro ⟨u, hu, ts, hts, hut⟩
      exact ⟨ts, hts, u, hut, (mem_acceptedRun.mp hu).2⟩
    · rintro ⟨ts, hts, u, hut, hu⟩
      have hcarries : Carries docs i u := ⟨ts, hts, hut⟩
      exact ⟨u, mem_acceptedRun.mpr ⟨mem_keys_of_carries hcarries, hu⟩, hcarries⟩

theorem patternSet_memory (docs : List (List Term)) (p : PatternQuery) :
    ∃ r, patternSet (ofDocuments docs).segment p = .ok r ∧ r.span = docs.length ∧
      ∀ i, r.contains i = true ↔ ∃ ts, docs[i]? = some ts ∧ p.Sat ts := by
  obtain ⟨r, hr, hspan, hmem⟩ :=
    collectTerms_memory docs (p.term.withText p.literalPrefix) p.isMatch
  refine ⟨r, hr, hspan, ?_⟩
  intro i
  rw [hmem i]
  unfold InRun PatternQuery.Sat Term.withText
  simp only [and_assoc]

/-- A package filter answers with the documents of its packages. -/
theorem allowed_spec (docs : List (List Term)) (f : PackagesFilter) :
    ∃ a, f.allowed (ofDocuments docs).segment = .ok a ∧ a.span = docs.length ∧
      ∀ i, a.contains i = true ↔
        ∃ ts, docs[i]? = some ts ∧ ∃ n ∈ f.packages, Term.mk f.field n ∈ ts := by
  obtain ⟨a, ha, hspan, hmem⟩ :=
    termsSet_memory docs (f.packages.toList.map fun n => ⟨f.field, n⟩)
  refine ⟨a, by rw [allowed_eq_termsSet]; exact ha, hspan, ?_⟩
  intro i
  rw [hmem i]
  constructor
  · rintro ⟨t, ht, ts, hts, hmt⟩
    obtain ⟨n, hn, rfl⟩ := List.mem_map.mp ht
    exact ⟨ts, hts, n, hn, hmt⟩
  · rintro ⟨ts, hts, n, hn, hmt⟩
    exact ⟨⟨f.field, n⟩, List.mem_map_of_mem hn, ts, hts, hmt⟩

/-- A filter answers a segment with a set of the span of the segment. -/
def FilterAnswers (s : Segment) (f : Filter) : Prop := ∃ a, f.allowed s = .ok a ∧ a.span = s.maxDoc

/-- A filter allows a document of a segment. -/
def Allows (s : Segment) (i : Nat) (f : Filter) : Prop :=
  ∃ a, f.allowed s = .ok a ∧ a.contains i = true

theorem filterAnswers_packages (docs : List (List Term)) (f : PackagesFilter) (tag : Nat) :
    FilterAnswers (ofDocuments docs).segment (f.toFilter tag) := by
  obtain ⟨a, ha, hspan, -⟩ := allowed_spec docs f
  exact ⟨a, ha, hspan.trans (maxDoc_ofDocuments docs).symm⟩

/-- **A package filter allows the documents of its packages.** -/
theorem allows_packages {f : PackagesFilter} {tag i : Nat} :
    Allows (ofDocuments docs).segment i (f.toFilter tag) ↔
      ∃ ts, docs[i]? = some ts ∧ ∃ n ∈ f.packages, Term.mk f.field n ∈ ts := by
  obtain ⟨a, ha, -, hmem⟩ := allowed_spec docs f
  have hfilter : (f.toFilter tag).allowed (ofDocuments docs).segment = .ok a := ha
  rw [← hmem i]
  unfold Allows
  rw [hfilter]
  simp only [Except.ok.injEq, exists_eq_left']

/-- A document of a list satisfies a query. -/
def Satisfies (docs : List (List Term)) (q : Query) (i : Nat) : Prop :=
  ∃ ts, docs[i]? = some ts ∧ q.Sat (Allows (ofDocuments docs).segment i) ts

theorem satisfies_iff {q : Query} {i : Nat} {ts : List Term} (h : docs[i]? = some ts) :
    Satisfies docs q i ↔ q.Sat (Allows (ofDocuments docs).segment i) ts := by
  unfold Satisfies
  rw [h]
  simp only [Option.some.injEq, exists_eq_left']

theorem Satisfies.lt {q : Query} {i : Nat} (h : Satisfies docs q i) : i < docs.length := by
  obtain ⟨ts, hts, -⟩ := h
  exact (List.getElem?_eq_some_iff.mp hts).1

theorem satisfies_boolean {cs : List (Occur × Query)} {i : Nat} (hi : i < docs.length) :
    Satisfies docs (.boolean cs) i ↔ ClauseRule (fun q => Satisfies docs q i) cs := by
  have hts := List.getElem?_eq_getElem hi
  rw [satisfies_iff hts, Query.sat_boolean]
  exact clauseRule_congr fun c _ => (satisfies_iff hts).symm

theorem satisfies_filtered {q : Query} {f : Filter} {i : Nat} :
    Satisfies docs (.filtered q f) i ↔
      Satisfies docs q i ∧ Allows (ofDocuments docs).segment i f := by
  unfold Satisfies
  simp only [Query.Sat, ← and_assoc, exists_and_right]

/-- A boolean query finds the documents that satisfy it, if each of its clauses does. -/
theorem execute_boolean_spec (docs : List (List Term)) {cs : List (Occur × Query)}
    (h : ∀ c ∈ cs, ∃ r, execute (ofDocuments docs).segment c.2 = .ok r ∧ r.span = docs.length ∧
      ∀ i, r.contains i = true ↔ Satisfies docs c.2 i) :
    ∃ r, execute (ofDocuments docs).segment (.boolean cs) = .ok r ∧ r.span = docs.length ∧
      ∀ i, r.contains i = true ↔ Satisfies docs (.boolean cs) i := by
  have hspan : (ofDocuments docs).segment.maxDoc = docs.length := maxDoc_ofDocuments docs
  have hanswers : ∀ c ∈ cs, Answers (ofDocuments docs).segment c.2 := by
    intro c hc
    obtain ⟨r, hr, hrspan, -⟩ := h c hc
    exact ⟨r, hr, hrspan.trans hspan.symm⟩
  have hfinds : ∀ c ∈ cs, ∀ i, Finds (ofDocuments docs).segment c.2 i ↔ Satisfies docs c.2 i := by
    intro c hc i
    obtain ⟨r, hr, -, hmem⟩ := h c hc
    rw [finds_iff hr, hmem i]
  obtain ⟨r, hr, hrspan, hmem⟩ := execute_boolean hanswers
  refine ⟨r, hr, hrspan.trans hspan, ?_⟩
  intro i
  have hrule : ClauseRule (fun q => Finds (ofDocuments docs).segment q i) cs ↔
      ClauseRule (fun q => Satisfies docs q i) cs := clauseRule_congr fun c hc => hfinds c hc i
  rw [hmem i, hrule]
  constructor
  · intro hi
    have hlt : i < docs.length := by
      rw [← hspan, ← hrspan]
      exact DocSet.lt_of_contains ((hmem i).mpr (hrule.mpr hi))
    exact (satisfies_boolean hlt).mpr hi
  · exact fun hi => (satisfies_boolean hi.lt).mp hi

/-- A filtered query finds the documents that satisfy it, if its inner query does and its filter
answers. -/
theorem execute_filtered_spec (docs : List (List Term)) {q : Query} {f : Filter}
    (hf : FilterAnswers (ofDocuments docs).segment f)
    (h : ∃ r, execute (ofDocuments docs).segment q = .ok r ∧ r.span = docs.length ∧
      ∀ i, r.contains i = true ↔ Satisfies docs q i) :
    ∃ r, execute (ofDocuments docs).segment (.filtered q f) = .ok r ∧ r.span = docs.length ∧
      ∀ i, r.contains i = true ↔ Satisfies docs (.filtered q f) i := by
  have hspan : (ofDocuments docs).segment.maxDoc = docs.length := maxDoc_ofDocuments docs
  obtain ⟨a, ha, haspan⟩ := hf
  obtain ⟨r₀, hr₀, hr₀span, hmem₀⟩ := h
  obtain ⟨r, hr, hrspan, hmem⟩ := execute_filtered ⟨r₀, hr₀, hr₀span.trans hspan.symm⟩ ha haspan
  refine ⟨r, hr, hrspan.trans hspan, ?_⟩
  intro i
  rw [hmem i, finds_iff hr₀, hmem₀ i, satisfies_filtered]
  unfold Allows
  rw [ha]
  simp only [Except.ok.injEq, exists_eq_left']

/-- **Search in memory.** A search finds exactly the documents that satisfy the query. -/
theorem execute_spec (docs : List (List Term)) (q : Query)
    (h : ∀ f ∈ q.filters, FilterAnswers (ofDocuments docs).segment f) :
    ∃ r, execute (ofDocuments docs).segment q = .ok r ∧ r.span = docs.length ∧
      ∀ i, r.contains i = true ↔ Satisfies docs q i := by
  induction q with
  | term t =>
    obtain ⟨r, hr, hspan, hmem⟩ := termsSet_memory docs [t]
    refine ⟨r, by simp only [execute, postingsSet_eq_termsSet, hr, orError], hspan, ?_⟩
    intro i
    rw [hmem i]
    simp only [List.mem_singleton, exists_eq_left, Carries, Satisfies, Query.Sat]
  | leading t =>
    obtain ⟨r, hr, hspan, hmem⟩ := collectTerms_memory docs t fun _ => true
    refine ⟨r, by simp only [execute, hr, orError], hspan, ?_⟩
    intro i
    rw [hmem i]
    simp only [InRun, and_true, Satisfies, Query.Sat]
  | wildcard p =>
    obtain ⟨r, hr, hspan, hmem⟩ := patternSet_memory docs p
    refine ⟨r, by simp only [execute, hr, orError], hspan, ?_⟩
    intro i
    rw [hmem i]
    simp only [Satisfies, Query.Sat]
  | regexp p =>
    obtain ⟨r, hr, hspan, hmem⟩ := patternSet_memory docs p
    refine ⟨r, by simp only [execute, hr, orError], hspan, ?_⟩
    intro i
    rw [hmem i]
    simp only [Satisfies, Query.Sat]
  | boolean cs ih =>
    refine execute_boolean_spec docs fun c hc => ih c hc fun f hf => ?_
    exact h f (Query.mem_filters_boolean hc hf)
  | filtered q f ih =>
    rw [Query.filters, List.forall_mem_cons] at h
    exact execute_filtered_spec docs h.1 (ih h.2)

/-- **Search is satisfaction.** Over the documents of a segment in memory a search succeeds and
finds exactly the documents that satisfy the query, if its filters answer; a package filter does,
and allows exactly the documents that carry one of its packages. -/
theorem execute_finds_satisfying (docs : List (List Term)) :
    (∀ q : Query, (∀ f ∈ q.filters, FilterAnswers (ofDocuments docs).segment f) →
      ∃ r, execute (ofDocuments docs).segment q = .ok r ∧ r.span = docs.length ∧
        ∀ i, r.contains i = true ↔ Satisfies docs q i) ∧
    ∀ (f : PackagesFilter) (tag : Nat),
      FilterAnswers (ofDocuments docs).segment (f.toFilter tag) ∧
        ∀ i, Allows (ofDocuments docs).segment i (f.toFilter tag) ↔
          ∃ ts, docs[i]? = some ts ∧ ∃ n ∈ f.packages, Term.mk f.field n ∈ ts := by
  exact ⟨execute_spec docs, fun f tag => ⟨filterAnswers_packages docs f tag, fun i =>
    allows_packages⟩⟩

/-- Three documents: one of package `a`, one of package `b` that carries `y` too, one of package
`c`. -/
def threeDocuments : List (List Term) :=
  [[⟨"p", "a"⟩, ⟨"r", "x"⟩], [⟨"p", "b"⟩, ⟨"r", "x"⟩, ⟨"r", "y"⟩], [⟨"p", "c"⟩, ⟨"r", "x"⟩]]

/-- Whatever carries `x` in the packages `a` and `b`, but not `y`. -/
def packagedQuery : Query :=
  .boolean [(.mustNot, .term ⟨"r", "y"⟩), (.should, .term ⟨"r", "z"⟩),
    (.must, .filtered (.leading ⟨"r", ""⟩)
      (PackagesFilter.toFilter ⟨"p", OrderedSet.ofList ["b", "a"]⟩ 0))]

/-- Of the three documents, the first alone satisfies the query. -/
theorem execute_packagedQuery : ∃ r,
    execute (ofDocuments threeDocuments).segment packagedQuery = .ok r ∧
      r.contains 0 = true ∧ r.contains 1 = false ∧ r.contains 2 = false := by
  have hspec := execute_finds_satisfying threeDocuments
  obtain ⟨hfilter, hallows⟩ := hspec.2 ⟨"p", OrderedSet.ofList ["b", "a"]⟩ 0
  have hfilters : ∀ f ∈ packagedQuery.filters,
      FilterAnswers (ofDocuments threeDocuments).segment f := by
    intro f hf
    simp only [packagedQuery, Query.filters, Query.filtersOfClauses, List.nil_append,
      List.append_nil, List.mem_singleton] at hf
    rw [hf]
    exact hfilter
  obtain ⟨r, hr, -, hmem⟩ := hspec.1 packagedQuery hfilters
  have hpackages : ∀ n, n ∈ OrderedSet.ofList ["b", "a"] ↔ n = "b" ∨ n = "a" := fun n => by simp
  have hsat : ∀ i, r.contains i = true ↔ ∃ ts, threeDocuments[i]? = some ts ∧
      ((∃ u ∈ ts, u.field = "r") ∧ ∃ us, threeDocuments[i]? = some us ∧
        (Term.mk "p" "b" ∈ us ∨ Term.mk "p" "a" ∈ us)) ∧ Term.mk "r" "y" ∉ ts := by
    intro i
    rw [hmem i]
    simp [Satisfies, packagedQuery, Query.sat_boolean, ClauseRule, Query.Sat, hallows, hpackages]
  refine ⟨r, hr, (hsat 0).mpr ?_, ?_, ?_⟩
  · simp [threeDocuments]
  · rw [← Bool.not_eq_true, hsat 1]
    simp [threeDocuments]
  · rw [← Bool.not_eq_true, hsat 2]
    simp [threeDocuments]

end MemorySegment

end UsageIndex
