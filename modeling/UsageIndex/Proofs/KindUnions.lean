import Mathlib.Data.List.Forall2
import UsageIndex.Proofs.Spans
import UsageIndex.Proofs.UsageQueries
import UsageIndex.Segment

/-!
# Unions over kinds

With `should` a usage query asks for each kind on its own, whatever encodes the references and makes
the queries. Its clauses are what `must` asks for one kind, so that it finds together what those
queries find. If there is no query for some kind, there is none at all.

* **`UsageQueryBuilder.clauses_eq_ok_iff`**, **`UsageQueryBuilder.clauses_eq_error_iff`**: one
  clause for each kind, or the error of the first kind without a query.
* **`UsageQueryBuilder.Asks`**: what a builder is asked for.
  **`UsageQueryBuilder.Asks.exists_yields_should`**: what a query with `should` finds.
* **`UsageQueryBuilder.should_unites_kinds`**: all of it, for names and for packages.
-/

namespace UsageIndex

/-- The kinds of a mask are listed in the order of their slots. -/
theorem UsageMask.pairwise_kinds (m : UsageMask) : m.kinds.Pairwise (·.offset < ·.offset) := by
  have hall : UsageKind.all.Pairwise (·.offset < ·.offset) := by decide
  exact hall.filter _

namespace UsageQueryBuilder

variable {b : UsageQueryBuilder} {text : String} {pattern : Bool} {m : UsageMask}

/-! ## Clauses -/

/-- A clause of a query with `should` is the query for one kind. -/
def IsClause (b : UsageQueryBuilder) (text : String) (pattern : Bool) (k : UsageKind)
    (c : Occur × Query) : Prop :=
  c.1 = .should ∧ b.together text (UsageMask.single k) pattern = .ok c.2

/-- **One clause for each kind**, in the order of the kinds. -/
theorem clauses_eq_ok_iff {ks : List UsageKind} {cs : List (Occur × Query)} :
    b.clauses text pattern ks = .ok cs ↔ List.Forall₂ (b.IsClause text pattern) ks cs := by
  induction ks generalizing cs with
  | nil =>
    rw [clauses, List.forall₂_nil_left_iff, Except.ok.injEq, eq_comm]
  | cons k ks ih =>
    rw [clauses, List.forall₂_cons_left_iff]
    simp only [← ih]
    unfold IsClause
    cases b.together text (UsageMask.single k) pattern with
    | error e => simp
    | ok q =>
      cases b.clauses text pattern ks with
      | error e => simp
      | ok ds => simp [eq_comm]

/-- A clause for each kind means a query for each kind. -/
theorem exists_together_of_clauses {ks : List UsageKind} {cs : List (Occur × Query)}
    (h : b.clauses text pattern ks = .ok cs) :
    ∀ k ∈ ks, ∃ q, b.together text (UsageMask.single k) pattern = .ok q := by
  rw [clauses_eq_ok_iff] at h
  induction h with
  | nil => exact nofun
  | cons hc _ ih => exact List.forall_mem_cons.mpr ⟨⟨_, hc.2⟩, ih⟩

/-- **The error** is that of the first kind without a query. -/
theorem clauses_eq_error_iff {ks : List UsageKind} {e : Error} :
    b.clauses text pattern ks = .error e ↔ ∃ ls k ms, ks = ls ++ k :: ms ∧
      (∀ l ∈ ls, ∃ q, b.together text (UsageMask.single l) pattern = .ok q) ∧
      b.together text (UsageMask.single k) pattern = .error e := by
  induction ks with
  | nil => simp [clauses]
  | cons k ks ih =>
    rw [clauses, exists_first_cons_iff, ← ih]
    cases b.together text (UsageMask.single k) pattern with
    | error e' => simp
    | ok q =>
      cases b.clauses text pattern ks with
      | error e' => simp
      | ok cs => simp

/-! ## Requests -/

/-- What a builder is asked for: references to a name, or to the names of a package. They come down
to a text, a pattern or not. -/
inductive Asks (b : UsageQueryBuilder) :
    (UsageMask → Occur → Except Error Query) → String → Bool → Prop where
  | name {name : String} : name ≠ "" → Asks b (b.usagesQuery name) name false
  | package (package : String) : Asks b (b.packageUsagesQuery package) (packagePattern package) true

namespace Asks

variable {ask : UsageMask → Occur → Except Error Query} (h : b.Asks ask text pattern)
include h

/-- What is asked for is composed, if some kind is asked for. -/
theorem eq_compose (hm : m.isEmpty = false) (operator : Occur) :
    ask m operator = b.compose text m operator pattern := by
  cases h with
  | name hname =>
    have hverify : verifyArgument (!text.isEmpty) "resource_name" "!resource_name.is_empty()" =
        .ok () := by simp [verifyArgument, hname]
    unfold usagesQuery
    rw [hverify, hm]
    rfl
  | package =>
    unfold packageUsagesQuery
    rw [hm]
    rfl

theorem single (k : UsageKind) :
    ask (UsageMask.single k) .must = b.together text (UsageMask.single k) pattern :=
  h.eq_compose (by cases k <;> rfl) .must

section

variable (hm : m.isEmpty = false)
include hm

theorem should_eq_ok_iff {q : Query} :
    ask m .should = .ok q ↔ ∃ cs, b.clauses text pattern m.kinds = .ok cs ∧ q = .boolean cs := by
  rw [h.eq_compose hm, compose]
  cases b.clauses text pattern m.kinds with
  | error e => simp
  | ok cs => simp [eq_comm]

theorem should_eq_error_iff {e : Error} :
    ask m .should = .error e ↔ b.clauses text pattern m.kinds = .error e := by
  rw [h.eq_compose hm, compose]
  cases b.clauses text pattern m.kinds with
  | error e' => simp
  | ok cs => simp

/-- There is a query if there is one for each kind. -/
theorem exists_should_iff : (∃ q, ask m .should = .ok q) ↔
    ∀ k, m.contains k = true → ∃ q, ask (UsageMask.single k) .must = .ok q := by
  simp only [h.should_eq_ok_iff hm, h.single, ← UsageMask.mem_kinds]
  constructor
  · rintro ⟨q, cs, hcs, -⟩
    exact exists_together_of_clauses hcs
  · intro hall
    obtain ⟨cs, hcs⟩ := exists_clauses hall
    exact ⟨_, cs, hcs, rfl⟩

end

end Asks

/-! ## Searches -/

/-- A request is answered, and its query finds a set in a segment. -/
def Yields (s : Segment) (x : Except Error Query) (r : DocSet) : Prop :=
  ∃ q, x = .ok q ∧ execute s q = .ok r

theorem Yields.span {s : Segment} {x : Except Error Query} {r : DocSet} (h : Yields s x r) :
    r.span = s.maxDoc := by
  obtain ⟨q, -, hr⟩ := h
  exact (execute_ends s q).ok r hr

theorem Yields.unique {s : Segment} {x : Except Error Query} {r r' : DocSet} (h : Yields s x r)
    (h' : Yields s x r') : r = r' := by
  obtain ⟨q, rfl, hr⟩ := h
  obtain ⟨_, ⟨⟩, hr'⟩ := h'
  exact Except.ok.inj (hr.symm.trans hr')

/-- **A query with `should` finds** what the queries for its kinds find together. -/
theorem Asks.exists_yields_should {ask : UsageMask → Occur → Except Error Query}
    (h : b.Asks ask text pattern) (hm : m.isEmpty = false) {s : Segment}
    (hkinds : ∀ k, m.contains k = true → ∃ r, Yields s (ask (UsageMask.single k) .must) r) :
    ∃ r, Yields s (ask m .should) r ∧ ∀ i, r.contains i = true ↔ ∃ k r', m.contains k = true ∧
      Yields s (ask (UsageMask.single k) .must) r' ∧ r'.contains i = true := by
  simp only [h.single, ← UsageMask.mem_kinds] at hkinds ⊢
  obtain ⟨cs, hcs⟩ : ∃ cs, b.clauses text pattern m.kinds = .ok cs := by
    refine exists_clauses fun k hk => ?_
    obtain ⟨r, q, hq, -⟩ := hkinds k hk
    exact ⟨q, hq⟩
  have hanswers : ∀ c ∈ cs, Answers s c.2 := by
    intro c hc
    obtain ⟨-, k, hk, hq⟩ := (mem_clauses hcs).mp hc
    obtain ⟨r, q, hq', hr⟩ := hkinds k hk
    rw [hq] at hq'
    cases hq'
    exact ⟨r, hr, (execute_ends s c.2).ok r hr⟩
  obtain ⟨r, hr, -, hmem⟩ := execute_boolean hanswers
  refine ⟨r, ⟨_, (h.should_eq_ok_iff hm).mpr ⟨cs, hcs, rfl⟩, hr⟩, fun i => ?_⟩
  rw [hmem i, clauseRule_should fun c hc => ((mem_clauses hcs).mp hc).1]
  constructor
  · rintro ⟨c, hc, r', hr', hi⟩
    obtain ⟨-, k, hk, hq⟩ := (mem_clauses hcs).mp hc
    exact ⟨k, r', hk, ⟨c.2, hq, hr'⟩, hi⟩
  · rintro ⟨k, r', hk, ⟨q, hq, hr'⟩, hi⟩
    exact ⟨(.should, q), (mem_clauses hcs).mpr ⟨rfl, k, hk, hq⟩, r', hr', hi⟩

/-- For the kinds of two masks, a query with `should` finds the union of what it finds for each. -/
theorem Asks.exists_yields_union {ask : UsageMask → Occur → Except Error Query}
    (h : b.Asks ask text pattern) (hm : m.isEmpty = false) {m' : UsageMask}
    (hm' : m'.isEmpty = false) {s : Segment}
    (hkinds : ∀ k, (m.union m').contains k = true →
      ∃ r, Yields s (ask (UsageMask.single k) .must) r) :
    ∃ r₁ r₂ r, Yields s (ask m .should) r₁ ∧ Yields s (ask m' .should) r₂ ∧
      Yields s (ask (m.union m') .should) r ∧ r₁.union r₂ = .ok r := by
  have hunion : (m.union m').isEmpty = false := by
    rw [← Bool.not_eq_true, UsageMask.isEmpty_iff] at hm ⊢
    intro hall
    refine hm fun k => ?_
    have hk := hall k
    rw [UsageMask.contains_union, Bool.or_eq_false_iff] at hk
    exact hk.1
  obtain ⟨r₁, hr₁, hmem₁⟩ := h.exists_yields_should hm fun k hk => hkinds k (by simp [hk])
  obtain ⟨r₂, hr₂, hmem₂⟩ := h.exists_yields_should hm' fun k hk => hkinds k (by simp [hk])
  obtain ⟨r, hr, hmem⟩ := h.exists_yields_should hunion hkinds
  obtain ⟨r', hr', hspan, hmem'⟩ := DocSet.union_spec (hr₁.span.trans hr₂.span.symm)
  have heq : r' = r := by
    refine DocSet.ext (hspan.trans (hr₁.span.trans hr.span.symm)) fun i => ?_
    rw [Bool.eq_iff_iff, hmem' i, hmem₁ i, hmem₂ i, hmem i]
    simp only [UsageMask.contains_union, Bool.or_eq_true, or_and_right, exists_or]
  exact ⟨r₁, r₂, r, hr₁, hr₂, hr, heq ▸ hr'⟩

/-- **Unions over kinds.** Whatever encodes the references and makes the queries, a request for one
kind with `must` is answered as the factory answers for the term of that kind. A request with
`should` is answered exactly if `must` is for each kind alone, and otherwise with the error of the
first kind, in the order of the slots, for which it is not. Its query has one clause for each kind,
in that order: what `must` asks for that kind. In every segment in which the queries for the kinds
find something it finds their union, and so for two masks the union of what is found for each. -/
theorem should_unites_kinds {ask : UsageMask → Occur → Except Error Query}
    (h : b.Asks ask text pattern) (hm : m.isEmpty = false) :
    (∀ k, ask (UsageMask.single k) .must =
      let t := b.encoder.referencesTerm text (UsageMask.single k) pattern
      b.factory.create t.field (b.caselessField.getD t.field) t.text
        (if pattern then .regexp else .wildcard)) ∧
    ((∃ q, ask m .should = .ok q) ↔
      ∀ k, m.contains k = true → ∃ q, ask (UsageMask.single k) .must = .ok q) ∧
    m.kinds.Pairwise (·.offset < ·.offset) ∧
    (∀ q, ask m .should = .ok q ↔ ∃ cs, q = .boolean cs ∧ List.Forall₂
      (fun k c => c.1 = .should ∧ ask (UsageMask.single k) .must = .ok c.2) m.kinds cs) ∧
    (∀ e, ask m .should = .error e ↔ ∃ ls k ms, m.kinds = ls ++ k :: ms ∧
      (∀ l ∈ ls, ∃ q, ask (UsageMask.single l) .must = .ok q) ∧
      ask (UsageMask.single k) .must = .error e) ∧
    (∀ s, (∀ k, m.contains k = true → ∃ r, Yields s (ask (UsageMask.single k) .must) r) →
      ∃ r, Yields s (ask m .should) r ∧ r.span = s.maxDoc ∧ ∀ i, r.contains i = true ↔
        ∃ k r', m.contains k = true ∧ Yields s (ask (UsageMask.single k) .must) r' ∧
          r'.contains i = true) ∧
    ∀ m' s, m'.isEmpty = false →
      (∀ k, (m.union m').contains k = true → ∃ r, Yields s (ask (UsageMask.single k) .must) r) →
      ∃ r₁ r₂ r, Yields s (ask m .should) r₁ ∧ Yields s (ask m' .should) r₂ ∧
        Yields s (ask (m.union m') .should) r ∧ r₁.union r₂ = .ok r := by
  refine ⟨h.single, h.exists_should_iff hm, m.pairwise_kinds, fun q => ?_, fun e => ?_, ?_, ?_⟩
  · simp only [h.should_eq_ok_iff hm, clauses_eq_ok_iff, h.single]
    exact exists_congr fun cs => and_comm
  · rw [h.should_eq_error_iff hm, clauses_eq_error_iff]
    simp only [h.single]
  · intro s hkinds
    obtain ⟨r, hr, hmem⟩ := h.exists_yields_should hm hkinds
    exact ⟨r, hr, hr.span, hmem⟩
  · exact fun m' s hm' => h.exists_yields_union hm hm'

/-- A builder that asks for what documents record, and has no query for the references to fields of
`a` alone. -/
def recordedOnly : UsageQueryBuilder where
  encoder := { Encoder.slots "r" with
    referencesTerm := fun name m _ => (Encoder.slots "r").documentTerm name m }
  factory := ⟨fun field _ value _ =>
    if value = "a----+-" then .error (.invalidArgument "value" value)
    else .ok (.term ⟨field, value⟩)⟩
  caselessField := none

/-- Three documents: one names `a`, one calls it, and one does both. -/
def recordedReferences : List (List Term) :=
  [[⟨"r", "a--+---"⟩], [⟨"r", "a---+--"⟩], [⟨"r", "a--++--"⟩]]

/-- The documents that name or call `a`, each by one kind alone, are found together. For the kinds
of a mask with references to fields there is no query. -/
theorem should_unites_recordedOnly :
    (∃ r, Yields (MemorySegment.ofDocuments recordedReferences).segment
      (recordedOnly.usagesQuery "a" (UsageMask.ofList [.methodReference, .typeReference]) .should)
      r ∧ r.contains 0 = true ∧ r.contains 1 = true ∧ r.contains 2 = false) ∧
    recordedOnly.usagesQuery "a" (UsageMask.ofList [.fieldReference, .typeReference]) .should =
      .error (.invalidArgument "value" "a----+-") := by
  have hask : recordedOnly.Asks (recordedOnly.usagesQuery "a") "a" false := .name (by decide)
  obtain ⟨-, -, -, -, -, hfinds, -⟩ := should_unites_kinds hask
    (m := UsageMask.ofList [.methodReference, .typeReference]) (by decide)
  obtain ⟨-, -, -, -, hfails, -⟩ := should_unites_kinds hask
    (m := UsageMask.ofList [.fieldReference, .typeReference]) (by decide)
  have htype : Yields (MemorySegment.ofDocuments recordedReferences).segment
      (recordedOnly.usagesQuery "a" (UsageMask.single .typeReference) .must)
      (DocSet.ofDocs 3 [0]) := ⟨_, rfl, by decide +kernel⟩
  have hmethod : Yields (MemorySegment.ofDocuments recordedReferences).segment
      (recordedOnly.usagesQuery "a" (UsageMask.single .methodReference) .must)
      (DocSet.ofDocs 3 [1]) := ⟨_, rfl, by decide +kernel⟩
  have hkind : ∀ k, (UsageMask.ofList [.methodReference, .typeReference]).contains k = true →
      k = .methodReference ∨ k = .typeReference := fun k hk => by simpa using hk
  obtain ⟨r, hr, -, hmem⟩ := hfinds _ fun k hk => by
    rcases hkind k hk with rfl | rfl
    · exact ⟨_, hmethod⟩
    · exact ⟨_, htype⟩
  refine ⟨⟨r, hr, (hmem 0).mpr ⟨_, _, by decide, htype, by decide +kernel⟩,
    (hmem 1).mpr ⟨_, _, by decide, hmethod, by decide +kernel⟩, ?_⟩,
    (hfails _).mpr ⟨[.typeReference], .fieldReference, [], by decide, ?_, rfl⟩⟩
  · rw [← Bool.not_eq_true, hmem 2]
    rintro ⟨k, r', hk, hr', hi⟩
    rcases hkind k hk with rfl | rfl
    · rw [← hmethod.unique hr'] at hi
      exact absurd hi (by decide +kernel)
    · rw [← htype.unique hr'] at hi
      exact absurd hi (by decide +kernel)
  · exact List.forall_mem_singleton.mpr ⟨_, rfl⟩

end UsageQueryBuilder

end UsageIndex
