import UsageIndex.Proofs.ScopedSearch
import UsageIndex.Proofs.Slots
import UsageIndex.Proofs.UsageQueries

/-!
# Search within a scope

A session searches the documents that it has indexed, each of which has one package.

* **`InScope`**: a package is within a scope.
* **`Session.search_spec`**: a search in memory finds the documents within the scope that the query
  describes.
-/

namespace UsageIndex

/-- A package is within a scope: no element declares packages, or one of them declares this one. -/
def InScope (scope : List ScopeElement) (p : String) : Prop :=
  (∀ e ∈ scope, e.packages = none) ∨ ∃ e ∈ scope, ∃ ps, e.packages = some ps ∧ p ∈ ps

/-- What the elements declare together are the packages within the scope. -/
theorem mem_scopePackages {scope : List ScopeElement} {packages : OrderedSet String}
    (h : scopePackages scope = some packages) (p : String) : p ∈ packages ↔ InScope scope p := by
  have hsome : ¬ ∀ e ∈ scope, e.packages = none := by
    rw [← scopePackages_eq_none_iff, h]
    exact Option.some_ne_none packages
  exact (mem_scopePackages_iff_declares h p).trans (or_iff_right hsome).symm

namespace Session

variable {o : SessionOptions} {s : Session} (hs : Session.new o = .ok s)
include hs

/-- The packages among the terms of a document are the package of the document. -/
theorem mem_documentTerms_package (d : UsageDocument) (p : String) :
    Term.mk s.packageField p ∈ s.documentTerms d ↔ p = d.package := by
  obtain ⟨hvalid, rfl⟩ := new_eq_ok_iff.mp hs
  exact UsageDocument.mem_terms_package ((SessionOptions.validate_eq_ok_iff o).mp hvalid).2.2.2

/-- The documents of declared packages are those within the scope. -/
theorem exists_package_iff (docs : List UsageDocument) {scope : List ScopeElement}
    {packages : OrderedSet String} (hscope : scopePackages scope = some packages) (i : Nat) :
    (∃ ts, (docs.map s.documentTerms)[i]? = some ts ∧
        ∃ p ∈ packages, Term.mk s.packageField p ∈ ts) ↔
      ∃ d, docs[i]? = some d ∧ InScope scope d.package := by
  simp only [List.getElem?_map, Option.map_eq_some_iff]
  constructor
  · rintro ⟨_, ⟨d, hd, rfl⟩, p, hp, ht⟩
    rw [mem_documentTerms_package hs] at ht
    exact ⟨d, hd, (mem_scopePackages hscope _).mp (ht ▸ hp)⟩
  · rintro ⟨d, hd, hin⟩
    exact ⟨_, ⟨d, hd, rfl⟩, d.package, (mem_scopePackages hscope _).mpr hin,
      (mem_documentTerms_package hs d _).mpr rfl⟩

/-- **Search within a scope.** A search in memory finds the documents within the scope that the
query describes. -/
theorem search_spec (docs : List UsageDocument) {q : Query} (hq : q.filters = [])
    (scope : List ScopeElement) :
    ∃ r, s.search (MemorySegment.ofDocuments (docs.map s.documentTerms)).segment q scope = .ok r ∧
      r.span = docs.length ∧ ∀ i, r.contains i = true ↔
        MemorySegment.Satisfies (docs.map s.documentTerms) q i ∧
          ∃ d, docs[i]? = some d ∧ InScope scope d.package := by
  have hlength : (docs.map s.documentTerms).length = docs.length := List.length_map _
  obtain ⟨r, hr, hspan, hmem⟩ := MemorySegment.execute_unfiltered (docs.map s.documentTerms) hq
  rw [search_eq_scopedSearch]
  cases hscope : scopePackages scope with
  | none =>
    have hall := scopePackages_eq_none_iff.mp hscope
    refine ⟨r, ?_, hspan.trans hlength, fun i => ?_⟩
    · unfold scopedSearch
      rw [scopeFilter_of_undeclared hall]
      exact hr
    · rw [hmem i]
      refine ⟨fun hi => ⟨hi, ?_⟩, fun hi => hi.1⟩
      have hlt : i < docs.length := hlength ▸ hi.lt
      exact ⟨docs[i], List.getElem?_eq_getElem hlt, .inl hall⟩
  | some packages =>
    obtain ⟨r', hr', hr'span, hr'mem⟩ :=
      MemorySegment.scopedSearch_spec hr hscope s.packageField 0
    refine ⟨r', hr', hr'span.trans hlength, fun i => ?_⟩
    rw [hr'mem i, hmem i, exists_package_iff hs docs hscope i]

end Session

end UsageIndex
