import Mathlib.Data.List.Forall2
import UsageIndex.Proofs.Pattern.Folding
import UsageIndex.Proofs.RegexpQueries

/-!
# Equal queries

Two pattern nodes count as equal if they have one term and one compiled text. A node also knows
whether letters match up to case, which the compiled text does not say, and from where on the
dictionary is read. So equal queries stand for each other as long as their nodes were made for
requests of the same kinds, and two requests for one pattern, one of them up to case, make equal
queries that find different documents.

* **`Query.MadeFor`**: the pattern nodes of a query were made by the standard factory, for requests
  of given kinds.
* **`Query.eq_of_same`**: equal queries whose nodes and filters are equal are one query.
* **`Query.same_interchangeable`**: equal queries made for the same kinds stand for each other.
* **`createQuery_same_not_interchangeable`**: equal queries made for different kinds do not.
-/

namespace UsageIndex

/-! ## Pattern nodes -/

namespace PatternQuery

/-- A pattern is that of a node that the standard factory makes for a request of a kind. -/
def MadeFor (kind : QueryKind) (p : PatternQuery) : Prop :=
  ∃ field caselessField value q,
    createQuery field caselessField value kind = .ok q ∧ q.pattern? = some p

/-- What a pattern made for a request of a kind is made of. -/
theorem MadeFor.made {kind : QueryKind} {p : PatternQuery} (h : p.MadeFor kind) :
    kind = .wildcard ∧ ofGlob p.term = .ok p ∨
      (kind = .regexp ∨ kind = .caselessRegexp) ∧
        ofPattern p.term (kind = .caselessRegexp) = .ok p := by
  obtain ⟨field, caselessField, value, q, hq, hp⟩ := h
  obtain ⟨-, -, hq⟩ := createQuery_eq_ok_iff.mp hq
  cases kind with
  | exact | leading | caselessLeading =>
    cases hq
    cases hp
  | wildcard =>
    obtain ⟨p', hp', rfl⟩ := hq
    cases hp
    rw [term_ofGlob hp']
    exact .inl ⟨rfl, hp'⟩
  | regexp =>
    obtain ⟨p', hp', rfl⟩ := hq
    cases hp
    rw [term_ofPattern hp']
    exact .inr ⟨.inl rfl, hp'⟩
  | caselessRegexp =>
    obtain ⟨p', hp', rfl⟩ := hq
    cases hp
    rw [term_ofPattern hp']
    exact .inr ⟨.inr rfl, hp'⟩

/-- **Equal patterns made for requests of one kind are one.** -/
theorem MadeFor.eq_of_same {kind : QueryKind} {p q : PatternQuery} (hp : p.MadeFor kind)
    (hq : q.MadeFor kind) (h : p.same q = true) : p = q := by
  unfold same at h
  rw [Bool.and_eq_true, decide_eq_true_eq, decide_eq_true_eq] at h
  rcases hp.made with ⟨rfl, hmade⟩ | ⟨hkind, hmade⟩
  · rcases hq.made with ⟨-, hmade'⟩ | ⟨hkind, -⟩
    · rw [← h.1, hmade] at hmade'
      exact Except.ok.inj hmade'
    · simp at hkind
  · rcases hq.made with ⟨rfl, -⟩ | ⟨-, hmade'⟩
    · simp at hkind
    · rw [← h.1, hmade] at hmade'
      exact Except.ok.inj hmade'

/-- Equal patterns made for requests of the same kinds are the same, one by one. -/
theorem eq_of_forall₂ {kinds : List QueryKind} {ps qs : List PatternQuery}
    (h : List.Forall₂ (fun p q => p.same q = true) ps qs)
    (hp : List.Forall₂ (fun kind (p : PatternQuery) => p.MadeFor kind) kinds ps)
    (hq : List.Forall₂ (fun kind (q : PatternQuery) => q.MadeFor kind) kinds qs) : ps = qs := by
  induction h generalizing kinds with
  | nil => rfl
  | cons hsame _ ih =>
    cases hp with
    | cons hp hps =>
      cases hq with
      | cons hq hqs => rw [hp.eq_of_same hq hsame, ih hps hqs]

end PatternQuery

/-! ## Trees -/

namespace Query

mutual

/-- The patterns of a query, in order. -/
def patterns : Query → List PatternQuery
  | term _ => []
  | leading _ => []
  | wildcard p => [p]
  | regexp p => [p]
  | boolean cs => patternsOfClauses cs
  | filtered q _ => q.patterns

/-- The patterns of clauses. -/
def patternsOfClauses : List (Occur × Query) → List PatternQuery
  | [] => []
  | (_, q) :: cs => q.patterns ++ patternsOfClauses cs

end

/-- The patterns of a query are those of nodes that the standard factory makes for requests of these
kinds. -/
def MadeFor (kinds : List QueryKind) (q : Query) : Prop :=
  List.Forall₂ (fun kind (p : PatternQuery) => p.MadeFor kind) kinds q.patterns

theorem sameClauses_iff {cs ds : List (Occur × Query)} : sameClauses cs ds = true ↔
    List.Forall₂ (fun c d => c.1 = d.1 ∧ c.2.same d.2 = true) cs ds := by
  induction cs generalizing ds with
  | nil => cases ds <;> simp [sameClauses]
  | cons c cs ih =>
    cases ds with
    | nil => simp [sameClauses]
    | cons d ds => simp [sameClauses, ih]

/-- Equal queries are nodes of one kind, and what they hold is equal. -/
inductive SameNode : Query → Query → Prop where
  | term (t : Term) : SameNode (.term t) (.term t)
  | leading (t : Term) : SameNode (.leading t) (.leading t)
  | wildcard {p q : PatternQuery} : p.same q = true → SameNode (.wildcard p) (.wildcard q)
  | regexp {p q : PatternQuery} : p.same q = true → SameNode (.regexp p) (.regexp q)
  | boolean {cs ds : List (Occur × Query)} :
      List.Forall₂ (fun c d => c.1 = d.1 ∧ c.2.same d.2 = true) cs ds →
      SameNode (.boolean cs) (.boolean ds)
  | filtered {p q : Query} {f g : Filter} : p.same q = true → f.tag = g.tag →
      SameNode (.filtered p f) (.filtered q g)

theorem sameNode_of_same {a b : Query} (h : a.same b = true) : SameNode a b := by
  unfold same at h
  split at h
  · rw [of_decide_eq_true h]
    exact .term _
  · rw [of_decide_eq_true h]
    exact .leading _
  · exact .wildcard h
  · exact .regexp h
  · exact .boolean (sameClauses_iff.mp h)
  · rw [Bool.and_eq_true, beq_iff_eq] at h
    exact .filtered h.1 h.2
  · cases h

/-- **The patterns of equal queries** are equal one by one. -/
theorem forall₂_patterns {a b : Query} (h : a.same b = true) :
    List.Forall₂ (fun p q => PatternQuery.same p q = true) a.patterns b.patterns := by
  induction a generalizing b with
  | term t =>
    cases sameNode_of_same h
    exact .nil
  | leading t =>
    cases sameNode_of_same h
    exact .nil
  | wildcard p =>
    cases sameNode_of_same h with
    | wildcard hp => exact .cons hp .nil
  | regexp p =>
    cases sameNode_of_same h with
    | regexp hp => exact .cons hp .nil
  | boolean cs ih =>
    cases sameNode_of_same h with
    | boolean hcs =>
      rw [patterns, patterns]
      clear h
      induction hcs with
      | nil => exact .nil
      | @cons c d cs ds hc _ ihcs =>
        exact List.rel_append (ih c List.mem_cons_self hc.2)
          (ihcs fun c hc => ih c (List.mem_cons_of_mem _ hc))
  | filtered q f ih =>
    cases sameNode_of_same h with
    | filtered hq _ =>
      rw [patterns, patterns]
      exact ih hq

/-- Filters of two queries with one tag are one filter. -/
def SharesFilters (fs gs : List Filter) : Prop := ∀ f ∈ fs, ∀ g ∈ gs, f.tag = g.tag → f = g

theorem SharesFilters.mono {fs fs' gs gs' : List Filter} (h : SharesFilters fs gs) (hf : fs' ⊆ fs)
    (hg : gs' ⊆ gs) : SharesFilters fs' gs' :=
  fun f hf' g hg' => h f (hf hf') g (hg hg')

/-- Equal clauses are the same clauses if this is so of each that has equal patterns. -/
theorem eq_of_sameClauses {cs ds : List (Occur × Query)}
    (h : List.Forall₂ (fun c d => c.1 = d.1 ∧ c.2.same d.2 = true) cs ds)
    (hpatterns : patternsOfClauses cs = patternsOfClauses ds)
    (hfilters : SharesFilters (filtersOfClauses cs) (filtersOfClauses ds))
    (heq : ∀ c ∈ cs, ∀ b : Query, c.2.same b = true → c.2.patterns = b.patterns →
      SharesFilters c.2.filters b.filters → c.2 = b) : cs = ds := by
  induction h with
  | nil => rfl
  | @cons c d cs ds hc _ ih =>
    rw [patternsOfClauses, patternsOfClauses] at hpatterns
    rw [filtersOfClauses, filtersOfClauses] at hfilters
    -- the patterns of the first clause end at one place in both lists
    obtain ⟨hhead, htail⟩ := List.append_inj hpatterns (forall₂_patterns hc.2).length_eq
    have hquery : c.2 = d.2 := heq c List.mem_cons_self d.2 hc.2 hhead
      (hfilters.mono (List.subset_append_left _ _) (List.subset_append_left _ _))
    have hrest : cs = ds := ih htail
      (hfilters.mono (List.subset_append_right _ _) (List.subset_append_right _ _))
      fun c hc => heq c (List.mem_cons_of_mem _ hc)
    rw [Prod.ext hc.1 hquery, hrest]

/-- **Equal queries are one query** if their patterns are the same and their filters are shared. -/
theorem eq_of_same {a b : Query} (h : a.same b = true) (hpatterns : a.patterns = b.patterns)
    (hfilters : SharesFilters a.filters b.filters) : a = b := by
  induction a generalizing b with
  | term t =>
    cases sameNode_of_same h
    rfl
  | leading t =>
    cases sameNode_of_same h
    rfl
  | wildcard p =>
    cases sameNode_of_same h
    rw [patterns, patterns] at hpatterns
    rw [List.head_eq_of_cons_eq hpatterns]
  | regexp p =>
    cases sameNode_of_same h
    rw [patterns, patterns] at hpatterns
    rw [List.head_eq_of_cons_eq hpatterns]
  | boolean cs ih =>
    cases sameNode_of_same h with
    | boolean hcs =>
      rw [patterns, patterns] at hpatterns
      rw [filters, filters] at hfilters
      rw [eq_of_sameClauses hcs hpatterns hfilters fun c hc b => ih c hc]
  | filtered q f ih =>
    cases sameNode_of_same h with
    | @filtered _ q' _ g hq htag =>
      rw [patterns, patterns] at hpatterns
      rw [filters, filters] at hfilters
      have hfilter : f = g := hfilters f List.mem_cons_self g List.mem_cons_self htag
      have hquery : q = q' := ih hq hpatterns
        (hfilters.mono (List.subset_cons_self _ _) (List.subset_cons_self _ _))
      rw [hfilter, hquery]

/-- **Equal queries stand for each other** if their pattern nodes were made for requests of the same
kinds and their filters are shared: they find the same documents in every segment, with the same
failures, and their patterns match the same texts. -/
theorem same_interchangeable {a b : Query} {kinds : List QueryKind} (h : a.same b = true)
    (ha : a.MadeFor kinds) (hb : b.MadeFor kinds) (hfilters : SharesFilters a.filters b.filters) :
    (∀ s, execute s a = execute s b) ∧
      ∀ p q, a.pattern? = some p → b.pattern? = some q → ∀ t, p.isMatch t = q.isMatch t := by
  have hpatterns : a.patterns = b.patterns := PatternQuery.eq_of_forall₂ (forall₂_patterns h) ha hb
  obtain rfl := eq_of_same h hpatterns hfilters
  refine ⟨fun _ => rfl, fun p q hp hq t => ?_⟩
  rw [hp] at hq
  cases hq
  rfl

end Query

/-- The query of a letter, up to case or not. -/
def letterQuery (caseless : Bool) : PatternQuery where
  term := ⟨"f", "a"⟩
  pattern := ⟨"^(?:a)$", caseless, .seq (.edge .textStart)
    (.seq (.one ((Pattern.CharSet.single 'a').foldIf caseless)) (.edge .textEnd))⟩
  literalPrefix := if caseless then "" else "a"

theorem createQuery_letter (caselessField : String) (h : caselessField ≠ "") :
    createQuery "f" caselessField "a" .regexp = .ok (.regexp (letterQuery false)) :=
  createQuery_regexp (by decide) h (by decide +kernel)

/-- A query that asks for a letter and not for a term. The letter is asked for with one or another
field of lower case copies, which it is not looked for in. -/
theorem Query.same_interchangeable_letters : ∃ p q,
    createQuery "f" "g" "a" .regexp = .ok (.regexp p) ∧
      createQuery "f" "h" "a" .regexp = .ok (.regexp q) ∧
      ∀ s, execute s (.boolean [(.must, .regexp p), (.mustNot, .term ⟨"f", "b"⟩)]) =
        execute s (.boolean [(.must, .regexp q), (.mustNot, .term ⟨"f", "b"⟩)]) := by
  have hp := createQuery_letter "g" (by decide)
  have hq := createQuery_letter "h" (by decide)
  have hmade : ∀ {caselessField : String},
      createQuery "f" caselessField "a" .regexp = .ok (.regexp (letterQuery false)) →
      (Query.boolean [(.must, .regexp (letterQuery false)), (.mustNot, .term ⟨"f", "b"⟩)]).MadeFor
        [.regexp] :=
    fun h => .cons ⟨_, _, _, _, h, rfl⟩ .nil
  refine ⟨_, _, hp, hq, (Query.same_interchangeable (by decide) (hmade hp) (hmade hq) ?_).1⟩
  exact fun f hf => absurd hf (by simp [Query.filters, Query.filtersOfClauses])

/-! ## Equal queries of different kinds -/

theorem createQuery_caselessLetter :
    createQuery "f" "f" "a" .caselessRegexp = .ok (.regexp (letterQuery true)) := by
  have hparse : Pattern.parse (Pattern.baseFlags true) ['a'] =
      .ok (.one (.caseless (.single 'a')) 0) :=
    Pattern.parse_eq_ok_iff.mpr ⟨_, Pattern.tokens_cons rfl Pattern.tokens_nil, rfl⟩
  have hform : Pattern.Form.ofTree (Pattern.enclosed (.one (.caseless (.single 'a')) 0)) =
      .seq [.edge .textStart, .set [(65, 66), (97, 98)], .edge .textEnd] := by
    simp only [Pattern.enclosed, Pattern.Form.ofTree, Pattern.Form.ofTrees,
      Pattern.runs_caseless_a]
    rfl
  have hlimits : (Pattern.enclosed (.one (.caseless (.single 'a')) 0)).WithinLimits := by
    unfold Pattern.Tree.WithinLimits
    rw [hform]
    decide +kernel
  have hcompile : Pattern.compile (Pattern.baseFlags true) (Pattern.anchored "a".toList) =
      .ok (letterQuery true).pattern.expr :=
    Pattern.compile_eq_ok_iff.mpr ⟨_, Pattern.parse_anchored_of_parse hparse, hlimits, rfl⟩
  exact createQuery_eq_ok_iff.mpr ⟨by decide, by decide, _,
    PatternQuery.ofPattern_eq_ok_iff.mpr ⟨_, hcompile, rfl⟩, rfl⟩

/-- Two requests for a pattern, one of them up to case, make equal queries. One of them matches a
capital letter, and finds its document, and the other does not. -/
theorem createQuery_same_not_interchangeable :
    createQuery "f" "f" "a" .regexp = .ok (.regexp (letterQuery false)) ∧
      createQuery "f" "f" "a" .caselessRegexp = .ok (.regexp (letterQuery true)) ∧
      (Query.regexp (letterQuery false)).same (.regexp (letterQuery true)) = true ∧
      (letterQuery false).isMatch "A" = false ∧ (letterQuery true).isMatch "A" = true ∧
      ∃ r r', execute (MemorySegment.ofDocuments [[⟨"f", "A"⟩]]).segment
          (.regexp (letterQuery false)) = .ok r ∧
        execute (MemorySegment.ofDocuments [[⟨"f", "A"⟩]]).segment
          (.regexp (letterQuery true)) = .ok r' ∧
        r.contains 0 = false ∧ r'.contains 0 = true := by
  refine ⟨createQuery_letter "f" (by decide), createQuery_caselessLetter, by decide,
    by decide +kernel, by decide +kernel, DocSet.empty 1, DocSet.full 1, ?_, ?_, rfl, rfl⟩
  · decide +kernel
  · decide +kernel

end UsageIndex
