import UsageIndex.Proofs.QueryTree
import UsageIndex.Session

/-!
# The queries of a session

* **`Session.new_eq_ok_iff`**: what a session consists of.
* **`createQuery_eq_ok_iff`**: what the standard factory makes.
* **`UsageQueryBuilder.mem_clauses`**: the clauses of a query are those of the kinds asked for.
* **`UsageQueryBuilder.compose_rule`**: what holds of every node that the factory makes holds of the
  queries of a session. **`Session.filters_usagesQuery`**, **`Session.filters_packageUsagesQuery`**:
  so they have no filters of their own.
-/

namespace UsageIndex

/-- A step after a check is taken if the condition holds. -/
theorem verifyArgument_bind_eq_ok_iff {α : Type} {holds : Bool} {name condition : String}
    {x : Except Error α} {a : α} :
    (do verifyArgument holds name condition; x) = .ok a ↔ holds = true ∧ x = .ok a := by
  cases holds with
  | false => simp [verifyArgument, bind, Except.bind]
  | true => simp [verifyArgument, bind, Except.bind]

theorem Session.new_eq_ok_iff {o : SessionOptions} {s : Session} :
    Session.new o = .ok s ↔ o.validate = .ok () ∧
      s = ⟨Encoder.slots o.fields.references, QueryFactory.standard, o⟩ := by
  unfold Session.new Session.withCollaborators
  cases o.validate with
  | error e => simp
  | ok u => simp [eq_comm]

/-- The session with the options that hold where no other are given. -/
def Session.standard : Session :=
  ⟨Encoder.slots "references", QueryFactory.standard, SessionOptions.standard⟩

theorem Session.new_standard : Session.new SessionOptions.standard = .ok Session.standard := rfl

/-! ## Nodes -/

/-- What the standard factory makes, if no field is empty: a node of the kind asked for. A pattern
node is made if its pattern can be compiled. -/
theorem createQuery_eq_ok_iff {field caselessField value : String} {kind : QueryKind} {q : Query} :
    createQuery field caselessField value kind = .ok q ↔ field ≠ "" ∧ caselessField ≠ "" ∧
      match kind with
      | .exact => q = .term ⟨field, value⟩
      | .leading => q = .leading ⟨field, value⟩
      | .caselessLeading => q = .leading ⟨caselessField, Text.lowercase value⟩
      | .wildcard => ∃ p, PatternQuery.ofGlob ⟨field, value⟩ = .ok p ∧ q = .wildcard p
      | .regexp => ∃ p, PatternQuery.ofPattern ⟨field, value⟩ false = .ok p ∧ q = .regexp p
      | .caselessRegexp =>
        ∃ p, PatternQuery.ofPattern ⟨caselessField, value⟩ true = .ok p ∧ q = .regexp p := by
  have hpattern : ∀ (x : Except Error PatternQuery) (f : PatternQuery → Query),
      (do return f (← x)) = Except.ok (ε := Error) q ↔ ∃ p, x = .ok p ∧ q = f p := by
    intro x f
    cases x with
    | error e => simp [bind, Except.bind]
    | ok p => simp [bind, Except.bind, pure, Except.pure, eq_comm]
  unfold createQuery
  rw [verifyArgument_bind_eq_ok_iff, verifyArgument_bind_eq_ok_iff]
  refine and_congr (by simp) (and_congr (by simp) ?_)
  cases kind with
  | exact | leading | caselessLeading => simp [pure, Except.pure, eq_comm]
  | wildcard | regexp | caselessRegexp => exact hpattern _ _

/-- The term of a pattern node is the one it was asked for. -/
theorem PatternQuery.term_ofGlob {t : Term} {p : PatternQuery} (h : ofGlob t = .ok p) :
    p.term = t := by
  unfold ofGlob at h
  simp only at h
  split at h <;> cases h
  rfl

theorem PatternQuery.term_ofPattern {t : Term} {caseless : Bool} {p : PatternQuery}
    (h : ofPattern t caseless = .ok p) : p.term = t := by
  unfold ofPattern at h
  split at h <;> cases h
  rfl

/-- A node is of one term, in a field that was asked for, and without filters. -/
theorem createQuery_node {field caselessField value : String} {kind : QueryKind} {q : Query}
    (h : createQuery field caselessField value kind = .ok q) :
    q.filters = [] ∧ ∃ t, q.terms = [t] ∧ (t.field = field ∨ t.field = caselessField) := by
  obtain ⟨-, -, h⟩ := createQuery_eq_ok_iff.mp h
  cases kind with
  | exact | leading =>
    cases h
    exact ⟨by rw [Query.filters], _, by rw [Query.terms], .inl rfl⟩
  | caselessLeading =>
    cases h
    exact ⟨by rw [Query.filters], _, by rw [Query.terms], .inr rfl⟩
  | wildcard =>
    obtain ⟨p, hp, rfl⟩ := h
    exact ⟨by rw [Query.filters], _, by rw [Query.terms, PatternQuery.term_ofGlob hp], .inl rfl⟩
  | regexp =>
    obtain ⟨p, hp, rfl⟩ := h
    exact ⟨by rw [Query.filters], _, by rw [Query.terms, PatternQuery.term_ofPattern hp], .inl rfl⟩
  | caselessRegexp =>
    obtain ⟨p, hp, rfl⟩ := h
    exact ⟨by rw [Query.filters], _, by rw [Query.terms, PatternQuery.term_ofPattern hp], .inr rfl⟩

theorem filters_createQuery {field caselessField value : String} {kind : QueryKind} {q : Query}
    (h : createQuery field caselessField value kind = .ok q) : q.filters = [] :=
  (createQuery_node h).1

theorem createQuery_wildcard {field caselessField value : String} {p : PatternQuery}
    (hfield : field ≠ "") (hcaseless : caselessField ≠ "")
    (h : PatternQuery.ofGlob ⟨field, value⟩ = .ok p) :
    createQuery field caselessField value .wildcard = .ok (.wildcard p) :=
  createQuery_eq_ok_iff.mpr ⟨hfield, hcaseless, p, h, rfl⟩

theorem createQuery_regexp {field caselessField value : String} {p : PatternQuery}
    (hfield : field ≠ "") (hcaseless : caselessField ≠ "")
    (h : PatternQuery.ofPattern ⟨field, value⟩ false = .ok p) :
    createQuery field caselessField value .regexp = .ok (.regexp p) :=
  createQuery_eq_ok_iff.mpr ⟨hfield, hcaseless, p, h, rfl⟩

/-! ## Usage queries -/

namespace UsageQueryBuilder

variable {b : UsageQueryBuilder} {name : String} {m : UsageMask} {operator : Occur}
  {pattern : Bool} {q : Query}

/-- If there is a query for each kind of a list, there are clauses. -/
theorem exists_clauses {ks : List UsageKind}
    (h : ∀ k ∈ ks, ∃ q, b.together name (UsageMask.single k) pattern = .ok q) :
    ∃ cs, b.clauses name pattern ks = .ok cs := by
  induction ks with
  | nil => exact ⟨[], rfl⟩
  | cons k ks ih =>
    obtain ⟨q, hq⟩ := h k List.mem_cons_self
    obtain ⟨cs, hcs⟩ := ih fun l hl => h l (List.mem_cons_of_mem k hl)
    refine ⟨(.should, q) :: cs, ?_⟩
    unfold clauses
    simp only [hq, hcs]

/-- **The clauses of a query are those of the kinds.** -/
theorem mem_clauses {ks : List UsageKind} {cs : List (Occur × Query)}
    (h : b.clauses name pattern ks = .ok cs) {c : Occur × Query} :
    c ∈ cs ↔ c.1 = .should ∧ ∃ k ∈ ks, b.together name (UsageMask.single k) pattern = .ok c.2 := by
  induction ks generalizing cs with
  | nil =>
    cases h
    simp
  | cons k ks ih =>
    unfold clauses at h
    cases hq : b.together name (UsageMask.single k) pattern with
    | error e => simp [hq] at h
    | ok q =>
      cases hds : b.clauses name pattern ks with
      | error e => simp [hq, hds] at h
      | ok ds =>
        simp only [hq, hds, Except.ok.injEq] at h
        rw [← h, List.mem_cons, ih hds]
        simp only [List.mem_cons, exists_eq_or_imp, hq, Except.ok.injEq]
        constructor
        · rintro (rfl | ⟨ho, hk⟩)
          · exact ⟨rfl, .inl rfl⟩
          · exact ⟨ho, .inr hk⟩
        · rintro ⟨ho, rfl | hk⟩
          · exact .inl (by rw [← ho])
          · exact .inr ⟨ho, hk⟩

/-- **What the nodes of a query have in common.** What holds of every node that the standard factory
makes, and of a boolean query of such nodes, holds of the query for a name. -/
theorem compose_rule {P : Query → Prop} (hb : b.factory = QueryFactory.standard)
    (hnode : ∀ {field caselessField value kind q},
      createQuery field caselessField value kind = .ok q → P q)
    (hboolean : ∀ cs : List (Occur × Query), (∀ c ∈ cs, P c.2) → P (.boolean cs))
    (h : b.compose name m operator pattern = .ok q) : P q := by
  have htogether : ∀ m q, b.together name m pattern = .ok q → P q := by
    intro m q hq
    unfold together ofTerm at hq
    rw [hb] at hq
    exact hnode hq
  cases operator with
  | should =>
    unfold compose at h
    cases hcs : b.clauses name pattern m.kinds with
    | error e => simp [hcs] at h
    | ok cs =>
      simp only [hcs, Except.ok.injEq] at h
      rw [← h]
      refine hboolean cs fun c hc => ?_
      obtain ⟨-, k, -, hk⟩ := (mem_clauses hcs).mp hc
      exact htogether _ _ hk
  | must => exact htogether m q h
  | mustNot => cases h

theorem filters_compose (hb : b.factory = QueryFactory.standard)
    (h : b.compose name m operator pattern = .ok q) : q.filters = [] :=
  compose_rule hb filters_createQuery (fun _ => Query.filters_boolean_eq_nil) h

end UsageQueryBuilder

namespace Session

variable {o : SessionOptions} {s : Session} {m : UsageMask} {operator : Occur} {q : Query}

section

variable {P : Query → Prop} (hs : Session.new o = .ok s)
  (hnode : ∀ {field caselessField value kind q},
    createQuery field caselessField value kind = .ok q → P q)
  (hboolean : ∀ cs : List (Occur × Query), (∀ c ∈ cs, P c.2) → P (.boolean cs))
include hs hnode hboolean

theorem usagesQuery_rule {name : String} (h : s.usagesQuery name m operator = .ok q) : P q := by
  obtain ⟨-, rfl⟩ := new_eq_ok_iff.mp hs
  unfold usagesQuery UsageQueryBuilder.usagesQuery at h
  rw [verifyArgument_bind_eq_ok_iff, verifyArgument_bind_eq_ok_iff] at h
  exact UsageQueryBuilder.compose_rule rfl hnode hboolean h.2.2

theorem packageUsagesQuery_rule {package : String}
    (h : s.packageUsagesQuery package m operator = .ok q) : P q := by
  obtain ⟨-, rfl⟩ := new_eq_ok_iff.mp hs
  unfold packageUsagesQuery UsageQueryBuilder.packageUsagesQuery at h
  rw [verifyArgument_bind_eq_ok_iff] at h
  exact UsageQueryBuilder.compose_rule rfl hnode hboolean h.2

end

theorem filters_usagesQuery {name : String} (hs : Session.new o = .ok s)
    (h : s.usagesQuery name m operator = .ok q) : q.filters = [] :=
  usagesQuery_rule hs filters_createQuery (fun _ => Query.filters_boolean_eq_nil) h

theorem filters_packageUsagesQuery {package : String} (hs : Session.new o = .ok s)
    (h : s.packageUsagesQuery package m operator = .ok q) : q.filters = [] :=
  packageUsagesQuery_rule hs filters_createQuery (fun _ => Query.filters_boolean_eq_nil) h

end Session

/-! ## Scopes -/

section

variable {q q' : Query} {scope : List ScopeElement} {field : String} {tag : Nat}
  (h : scopeFilter q scope field tag = some q')
include h

/-- What a scope puts on a query: nothing, a clause for one package or a filter for several. -/
theorem scopeFilter_cases : q' = q ∨ (∃ p, q' = .boolean [(.must, .term ⟨field, p⟩), (.must, q)]) ∨
    ∃ packages, q' = .filtered q (PackagesFilter.toFilter ⟨field, packages⟩ tag) := by
  unfold scopeFilter at h
  cases hp : scopePackages scope with
  | none =>
    simp only [hp, Option.some.injEq] at h
    exact .inl h.symm
  | some packages =>
    simp only [hp] at h
    split at h
    · cases h
    · cases h
      exact .inr (.inl ⟨_, rfl⟩)
    · cases h
      exact .inr (.inr ⟨packages, rfl⟩)

/-- A scope adds a filter of its package field at most. -/
theorem mem_filters_scopeFilter {f : Filter} (hf : f ∈ q'.filters) :
    f ∈ q.filters ∨ ∃ packages, f = PackagesFilter.toFilter ⟨field, packages⟩ tag := by
  rcases scopeFilter_cases h with rfl | ⟨p, rfl⟩ | ⟨packages, rfl⟩
  · exact .inl hf
  · simp only [Query.filters, Query.filtersOfClauses, List.nil_append, List.append_nil] at hf
    exact .inl hf
  · rw [Query.filters, List.mem_cons] at hf
    exact hf.symm.imp_right fun hf => ⟨packages, hf⟩

/-- A scope adds a term of its package field at most. -/
theorem mem_terms_scopeFilter {t : Term} (ht : t ∈ q'.terms) : t ∈ q.terms ∨ t.field = field := by
  rcases scopeFilter_cases h with rfl | ⟨p, rfl⟩ | ⟨packages, rfl⟩
  · exact .inl ht
  · simp only [Query.terms, Query.termsOfClauses, List.append_nil, List.mem_append,
      List.mem_singleton] at ht
    exact ht.symm.imp_right fun ht => by rw [ht]
  · rw [Query.terms] at ht
    exact .inl ht

end

end UsageIndex
