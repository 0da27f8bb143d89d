import UsageIndex.Proofs.Slices
import UsageIndex.Proofs.Spans
import UsageIndex.Proofs.Usages

/-!
# Preconditions

Some operations have preconditions: sets that are combined are of one span, a term has a field and a
text is sliced between characters. Whatever a segment yields, no search and no call of a session
breaks one of them.

* **`Contained`**: the outcome of a search that breaks no precondition.
* **`Query.HasFields`**: every term that a query asks for has a field. The queries of a session are
  so, within every scope.
* **`search_over_any_segment`**: searches and the calls of a session.
-/

namespace UsageIndex

/-! ## Outcomes -/

/-- The outcome of a search of a segment breaks no precondition, and a set that is found is of the
span of the segment and lies below it. -/
structure Contained (s : Segment) (x : Except Failure DocSet) : Prop where
  unbroken : ∀ v, x ≠ .error (.violation v)
  span : ∀ r, x = .ok r → r.span = s.maxDoc
  below : ∀ r, x = .ok r → ∀ d, r.contains d = true → d < s.maxDoc

theorem Contained.of_ends {s : Segment} {x : Except Failure DocSet}
    (h : Ends (fun r => r.span = s.maxDoc) False x) : Contained s x where
  unbroken v hv := h.violation v hv
  span r hr := h.ok r hr
  below r hr _ hd := (DocSet.lt_of_contains hd).trans_eq (h.ok r hr)

theorem execute_contained {s : Segment} {q : Query} (hq : ∀ f ∈ q.filters, f.Fits s) :
    Contained s (execute s q) :=
  .of_ends ((execute_ends s q).mono fun ⟨f, hf, hfits⟩ => hfits (hq f hf))

/-! ## Sessions -/

/-- Every term that a query asks for has a field: those of its nodes and, as its filters are package
filters, those of the packages. -/
structure Query.HasFields (q : Query) : Prop where
  terms : ∀ t ∈ q.terms, t.field ≠ ""
  filters : ∀ f ∈ q.filters, ∃ (p : PackagesFilter) (tag : Nat), f = p.toFilter tag ∧ p.field ≠ ""

theorem hasFields_createQuery {field caselessField value : String} {kind : QueryKind} {q : Query}
    (h : createQuery field caselessField value kind = .ok q) : q.HasFields := by
  obtain ⟨hfield, hcaseless, -⟩ := createQuery_eq_ok_iff.mp h
  obtain ⟨hfilters, t, hterms, ht⟩ := createQuery_node h
  constructor
  · intro u hu
    rw [hterms, List.mem_singleton] at hu
    rcases ht with ht | ht
    · rw [hu, ht]
      exact hfield
    · rw [hu, ht]
      exact hcaseless
  · intro f hf
    rw [hfilters] at hf
    cases hf

theorem Query.hasFields_boolean {cs : List (Occur × Query)} (h : ∀ c ∈ cs, c.2.HasFields) :
    (boolean cs).HasFields := by
  constructor
  · intro t ht
    rw [terms, mem_termsOfClauses] at ht
    obtain ⟨c, hc, ht⟩ := ht
    exact (h c hc).terms t ht
  · intro f hf
    rw [filters, mem_filtersOfClauses] at hf
    obtain ⟨c, hc, hf⟩ := hf
    exact (h c hc).filters f hf

theorem Query.HasFields.scopeFilter {q q' : Query} (hq : q.HasFields) {scope : List ScopeElement}
    {field : String} {tag : Nat} (hfield : field ≠ "")
    (h : UsageIndex.scopeFilter q scope field tag = some q') : q'.HasFields := by
  constructor
  · intro t ht
    rcases mem_terms_scopeFilter h ht with ht | ht
    · exact hq.terms t ht
    · rw [ht]
      exact hfield
  · intro f hf
    rcases mem_filters_scopeFilter h hf with hf | ⟨packages, rfl⟩
    · exact hq.filters f hf
    · exact ⟨_, _, rfl, hfield⟩

theorem Query.HasFields.contained {q : Query} (hq : q.HasFields) (s : Segment) :
    Contained s (execute s q) := by
  refine execute_contained fun f hf => ?_
  obtain ⟨p, tag, rfl, -⟩ := hq.filters f hf
  exact p.fits_toFilter tag s

namespace Session

variable {o : SessionOptions} {session : Session} (hs : Session.new o = .ok session)
include hs

theorem packageField_ne_empty : session.packageField ≠ "" := by
  obtain ⟨hvalid, rfl⟩ := new_eq_ok_iff.mp hs
  exact ((SessionOptions.validate_eq_ok_iff o).mp hvalid).2.1

theorem field_referencesTerm (name : String) (m : UsageMask) (pattern : Bool) :
    (session.encoder.referencesTerm name m pattern).field ≠ "" := by
  obtain ⟨hvalid, rfl⟩ := new_eq_ok_iff.mp hs
  have hreferences := ((SessionOptions.validate_eq_ok_iff o).mp hvalid).1
  unfold Encoder.slots
  cases pattern <;> exact hreferences

theorem hasFields_usagesQuery {name : String} {m : UsageMask} {operator : Occur} {q : Query}
    (h : session.usagesQuery name m operator = .ok q) : q.HasFields :=
  usagesQuery_rule hs hasFields_createQuery (fun _ => Query.hasFields_boolean) h

theorem hasFields_packageUsagesQuery {package : String} {m : UsageMask} {operator : Occur}
    {q : Query} (h : session.packageUsagesQuery package m operator = .ok q) : q.HasFields :=
  packageUsagesQuery_rule hs hasFields_createQuery (fun _ => Query.hasFields_boolean) h

/-- A search for a query that may not be had, within a scope. -/
theorem search_contained (s : Segment) {x : Except Error Query}
    (hx : ∀ q, x = .ok q → q.HasFields) (scope : List ScopeElement) :
    Contained s (do
      let q ← orError x
      session.search s q scope) := by
  cases h : x with
  | error e => exact .of_ends ⟨fun _ => nofun, fun _ => nofun⟩
  | ok q =>
    have hsearch : Contained s (session.search s q scope) := by
      unfold search
      cases hscope : session.scopeFilter q scope 0 with
      | none => exact .of_ends (.of_ok rfl)
      | some q' =>
        exact ((hx q h).scopeFilter (packageField_ne_empty hs) hscope).contained s
    exact hsearch

end Session

/-- **Search over any segment.** Whatever a segment yields, a search breaks no precondition if its
filters fit, and finds documents of the segment alone. A search for a term reports postings out of
span. The calls of a session break no precondition: neither those of the sets, nor that terms have
a field, nor that texts are sliced between characters. -/
theorem search_over_any_segment (s : Segment) :
    (∀ q : Query, (∀ f ∈ q.filters, f.Fits s) → Contained s (execute s q)) ∧
    (∀ t docs, s.postings t = .ok docs →
      ((∃ element message,
          execute s (.term t) = .error (.error (.invalidFormat element message))) ↔
        ∃ d ∈ docs, s.maxDoc ≤ d)) ∧
    ∀ (o : SessionOptions) (session : Session), Session.new o = .ok session →
      (∀ name m operator scope, Contained s (session.findUsages s name m operator scope)) ∧
      (∀ package m operator scope,
        Contained s (session.findPackageUsages s package m operator scope)) ∧
      (∀ name m pattern, (session.encoder.referencesTerm name m pattern).field ≠ "") ∧
      (∀ text m operator q, session.usagesQuery text m operator = .ok q ∨
          session.packageUsagesQuery text m operator = .ok q →
        q.HasFields ∧ ∀ scope tag q', session.scopeFilter q scope tag = some q' → q'.HasFields) ∧
      ∀ leading directOnly,
        (PackageNames.under session.packageField leading directOnly).startTerm.field ≠ "" ∧
        packageNamesBySlices? s (PackageNames.under session.packageField leading directOnly) =
          some (session.packageNames s leading directOnly) := by
  refine ⟨fun q => execute_contained, fun t docs => execute_term_fails_iff, ?_⟩
  intro o session hs
  have hfield := Session.packageField_ne_empty hs
  refine ⟨fun name m operator scope => ?_, fun package m operator scope => ?_,
    Session.field_referencesTerm hs, fun text m operator q hq => ?_, ?_⟩
  · exact Session.search_contained hs s (fun q => Session.hasFields_usagesQuery hs) scope
  · exact Session.search_contained hs s (fun q => Session.hasFields_packageUsagesQuery hs) scope
  · have hfields : q.HasFields :=
      hq.elim (Session.hasFields_usagesQuery hs) (Session.hasFields_packageUsagesQuery hs)
    exact ⟨hfields, fun scope tag q' => hfields.scopeFilter hfield⟩
  · exact fun leading directOnly => ⟨hfield, packageNamesBySlices?_eq s _⟩

/-- Two documents, with postings out of order, repeated and out of span, and with a dictionary that
is out of order. -/
def disordered : Segment where
  maxDoc := 2
  postings _ := .ok [1, 0, 1, 7]
  termsFrom _ := .ok [⟨"packageName", "éé.é"⟩, ⟨"packageName", "a"⟩, ⟨"references", "a"⟩]

/-- A search for a term reports the postings. Neither a filter without a span of its own nor the
search for references within a package breaks a precondition, and the name of a package is cut
between two characters of two bytes. -/
theorem search_over_disordered :
    Contained disordered (execute disordered
      (.filtered (.leading ⟨"references", ""⟩) (FixedFilter.toFilter ⟨[9, 0], none⟩ 0))) ∧
    (∃ element message, execute disordered (.term ⟨"references", "a"⟩) =
      .error (.error (.invalidFormat element message))) ∧
    (∃ q q', Session.standard.usagesQuery "a" (UsageMask.single .methodReference) .must = .ok q ∧
      Session.standard.scopeFilter q [ScopeElement.narrowed .source ["p"]] 0 = some q' ∧
      q'.HasFields ∧ Contained disordered (Session.standard.findUsages disordered "a"
        (UsageMask.single .methodReference) .must [ScopeElement.narrowed .source ["p"]])) ∧
    packageNamesBySlices? disordered (PackageNames.under "packageName" (some "é") true) =
      some (.ok (OrderedSet.ofList ["éé"])) := by
  obtain ⟨hsearch, hterm, hsession⟩ := search_over_any_segment disordered
  obtain ⟨hfind, -, -, hfields, hnames⟩ := hsession _ _ Session.new_standard
  obtain ⟨q, hq, -⟩ := @Session.together_name _ _ "a" (UsageMask.single .methodReference)
    Session.new_standard (Session.keepsToSize_usagePattern (by decide))
  have hquery : Session.standard.usagesQuery "a" (UsageMask.single .methodReference) .must =
      .ok q := by
    unfold Session.usagesQuery UsageQueryBuilder.usagesQuery
    rw [verifyArgument_bind_eq_ok_iff, verifyArgument_bind_eq_ok_iff]
    exact ⟨by decide, by decide, hq⟩
  refine ⟨hsearch _ ?_, (hterm _ _ rfl).mpr ⟨7, by decide, by decide⟩,
    ⟨q, _, hquery, rfl, ?_, hfind _ _ _ _⟩, ?_⟩
  · intro f hf
    rw [Query.filters, Query.filters, List.mem_singleton] at hf
    rw [hf]
    rintro a ⟨⟩
    rfl
  · exact (hfields _ _ _ q (.inl hquery)).2 [ScopeElement.narrowed .source ["p"]] 0 _ rfl
  · exact (hnames (some "é") true).2

end UsageIndex
