import UsageIndex.Proofs.PatternQueries
import UsageIndex.Proofs.Scopes

/-!
# What usage searches find

A session searches the documents that it indexed itself. What it finds can be told from what the
documents record, without their encoding, patterns or the order of reads.

* **`UsageMask.Meets`**: kinds meet a mask, one of them or all together.
* **`UsageQueryBuilder.compose_spec`**: what a query asks for, from what each of its terms asks for.
* **`Session.search_references`**: a search finds the documents within the scope that refer to a
  name of those asked for by kinds that meet the mask.
* **`Session.findUsages_finds_references`**: for a search for one name.
-/

namespace UsageIndex

open UsageIndex.Pattern (Joins KeepsToSize)

/-! ## Masks -/

namespace UsageMask

/-- Kinds meet a mask: they share a kind with it, or they have all its kinds. -/
def Meets (m K : UsageMask) : Occur → Prop
  | .should => ∃ k, m.contains k = true ∧ K.contains k = true
  | .must => m.Within K
  | .mustNot => False

/-- The masks that a query has a term for. -/
def asked (m : UsageMask) : Occur → List UsageMask
  | .should => m.kinds.map single
  | .must => [m]
  | .mustNot => []

theorem single_within {k : UsageKind} {K : UsageMask} :
    (single k).Within K ↔ K.contains k = true := by
  unfold Within
  simp only [contains_single, decide_eq_true_eq, forall_eq]

theorem isEmpty_single (k : UsageKind) : (single k).isEmpty = false := by cases k <;> rfl

/-- None of the masks that a query has a term for is empty. -/
theorem isEmpty_of_mem_asked {m m' : UsageMask} {operator : Occur} (hm : m.isEmpty = false)
    (h : m' ∈ m.asked operator) : m'.isEmpty = false := by
  cases operator with
  | should =>
    obtain ⟨k, -, rfl⟩ := List.mem_map.mp h
    exact isEmpty_single k
  | must =>
    rw [List.mem_singleton.mp h]
    exact hm
  | mustNot => cases h

theorem meets_iff {m K : UsageMask} {operator : Occur} :
    m.Meets K operator ↔ ∃ m' ∈ m.asked operator, m'.Within K := by
  cases operator with
  | should => simp [Meets, asked, single_within]
  | must => simp [Meets, asked]
  | mustNot => simp [Meets, asked]

end UsageMask

/-! ## Queries -/

/-- A query asks for a term of a field whose text is a name of `N` with slots that fit a mask. -/
def Query.AsksFor (q : Query) (field : String) (N : List Char → Prop) (m : UsageMask) : Prop :=
  ∀ allows ts, q.Sat allows ts ↔
    ∃ t ∈ ts, t.field = field ∧ Joins N (Slots.Fits m) t.text.toList

namespace UsageQueryBuilder

variable {b : UsageQueryBuilder} {name field : String} {N : List Char → Prop} {m : UsageMask}
  {operator : Occur} {pattern : Bool}

/-- **Composed queries.** If there is a query for each mask, there is one for all of them, and it
asks for what one of them asks for. -/
theorem compose_spec (hop : operator ≠ .mustNot) (h : ∀ m' ∈ m.asked operator,
      ∃ q, b.together name m' pattern = .ok q ∧ q.AsksFor field N m') :
    ∃ q, b.compose name m operator pattern = .ok q ∧ ∀ allows ts, q.Sat allows ts ↔
      ∃ m' ∈ m.asked operator, ∃ t ∈ ts, t.field = field ∧
        Joins N (Slots.Fits m') t.text.toList := by
  cases operator with
  | should =>
    have hk : ∀ k ∈ m.kinds, ∃ q, b.together name (UsageMask.single k) pattern = .ok q ∧
        q.AsksFor field N (UsageMask.single k) := fun k hk => h _ (List.mem_map_of_mem hk)
    obtain ⟨cs, hcs⟩ := exists_clauses (fun k hk' => (hk k hk').imp fun _ hq => hq.1)
    refine ⟨.boolean cs, by simp only [compose, hcs], ?_⟩
    intro allows ts
    rw [Query.sat_should fun c hc => ((mem_clauses hcs).mp hc).1]
    constructor
    · rintro ⟨c, hc, hsat⟩
      obtain ⟨-, k, hkm, hck⟩ := (mem_clauses hcs).mp hc
      obtain ⟨q, hq, hasks⟩ := hk k hkm
      rw [hck] at hq
      cases hq
      exact ⟨_, List.mem_map_of_mem hkm, (hasks allows ts).mp hsat⟩
    · rintro ⟨m', hm', ht⟩
      obtain ⟨k, hkm, rfl⟩ := List.mem_map.mp hm'
      obtain ⟨q, hq, hasks⟩ := hk k hkm
      exact ⟨(.should, q), (mem_clauses hcs).mpr ⟨rfl, k, hkm, hq⟩, (hasks allows ts).mpr ht⟩
  | must =>
    obtain ⟨q, hq, hasks⟩ := h m (List.mem_singleton_self m)
    refine ⟨q, hq, ?_⟩
    intro allows ts
    rw [hasks allows ts]
    simp only [UsageMask.asked, List.mem_singleton, exists_eq_left]
  | mustNot => exact absurd rfl hop

end UsageQueryBuilder

/-! ## Searches -/

namespace Session

variable {o : SessionOptions} {s : Session}

/-- What the terms of a document satisfy, from what the document records. -/
theorem exists_asked_iff (ho : o.validate = .ok ()) {d : UsageDocument} {N : List Char → Prop}
    {m : UsageMask} (hm : m.isEmpty = false) {operator : Occur} :
    (∃ m' ∈ m.asked operator,
        ∃ t ∈ d.terms (Encoder.slots o.fields.references) o.fields.packageName,
          t.field = o.fields.references ∧ Joins N (Slots.Fits m') t.text.toList) ↔
      ∃ n K, d.references.find? n = some K ∧ N n.toList ∧ m.Meets K operator := by
  have hfields := ((SessionOptions.validate_eq_ok_iff o).mp ho).2.2.2
  constructor
  · rintro ⟨m', hm', ht⟩
    obtain ⟨n, K, hK, hn, hwithin⟩ := (UsageDocument.exists_reference_iff hfields
      (UsageMask.isEmpty_of_mem_asked hm hm')).mp ht
    exact ⟨n, K, hK, hn, UsageMask.meets_iff.mpr ⟨m', hm', hwithin⟩⟩
  · rintro ⟨n, K, hK, hn, hmeets⟩
    obtain ⟨m', hm', hwithin⟩ := UsageMask.meets_iff.mp hmeets
    exact ⟨m', hm', (UsageDocument.exists_reference_iff hfields
      (UsageMask.isEmpty_of_mem_asked hm hm')).mpr ⟨n, K, hK, hn, hwithin⟩⟩

/-- **Search for references.** If there is a query for each mask, the search finds the documents
within the scope that refer to one of the names by kinds that meet the mask. -/
theorem search_references (hs : Session.new o = .ok s) (docs : List UsageDocument) {name : String}
    {N : List Char → Prop} {m : UsageMask} (hm : m.isEmpty = false) {operator : Occur}
    (hop : operator ≠ .mustNot) {pattern : Bool} (h : ∀ m' ∈ m.asked operator,
      ∃ q, s.queryBuilder.together name m' pattern = .ok q ∧
        q.AsksFor s.options.fields.references N m') (scope : List ScopeElement) :
    ∃ q, s.queryBuilder.compose name m operator pattern = .ok q ∧
      ∃ r, s.search (MemorySegment.ofDocuments (docs.map s.documentTerms)).segment q scope = .ok r ∧
        r.span = docs.length ∧ ∀ i, r.contains i = true ↔
          ∃ d n K, docs[i]? = some d ∧ d.references.find? n = some K ∧ N n.toList ∧
            m.Meets K operator ∧ InScope scope d.package := by
  obtain ⟨hvalid, rfl⟩ := new_eq_ok_iff.mp hs
  obtain ⟨q, hq, hsat⟩ := UsageQueryBuilder.compose_spec hop h
  obtain ⟨r, hr, hspan, hmem⟩ :=
    search_spec hs docs (UsageQueryBuilder.filters_compose rfl hq) scope
  refine ⟨q, hq, r, hr, hspan, ?_⟩
  intro i
  -- what the query asks of the terms of a document is what the document records
  have hdoc : ∀ allows (d : UsageDocument), q.Sat allows
      (d.terms (Encoder.slots o.fields.references) o.fields.packageName) ↔
        ∃ n K, d.references.find? n = some K ∧ N n.toList ∧ m.Meets K operator :=
    fun allows d => (hsat allows _).trans (exists_asked_iff hvalid hm)
  rw [hmem i]
  unfold MemorySegment.Satisfies
  simp only [List.getElem?_map, Option.map_eq_some_iff]
  constructor
  · rintro ⟨⟨_, ⟨d, hd, rfl⟩, hsat⟩, d', hd', hin⟩
    rw [hd] at hd'
    cases hd'
    obtain ⟨n, K, hK, hn, hmeets⟩ := (hdoc _ d).mp hsat
    exact ⟨d, n, K, hd, hK, hn, hmeets, hin⟩
  · rintro ⟨d, n, K, hd, hK, hn, hmeets, hin⟩
    exact ⟨⟨_, ⟨d, hd, rfl⟩, (hdoc _ d).mpr ⟨n, K, hK, hn, hmeets⟩⟩, d, hd, hin⟩

end Session

/-! ## One name -/

/-- The pattern that references to a name by all kinds of a mask are searched with. -/
def usagePattern (name : String) (m : UsageMask) : List Char :=
  Glob.toPattern (Glob.items (Glob.escape name.toList ++ Slots.glob m))

namespace Session

variable {o : SessionOptions} {s : Session} {name : String} {m : UsageMask}

/-- The query for a name asks for just that name. -/
theorem together_name (hs : Session.new o = .ok s) (hsize : KeepsToSize (usagePattern name m)) :
    ∃ q, s.queryBuilder.together name m false = .ok q ∧
      q.AsksFor s.options.fields.references (· = name.toList) m := by
  obtain ⟨hvalid, rfl⟩ := new_eq_ok_iff.mp hs
  obtain ⟨hfield, -, hcaseless, -⟩ := (SessionOptions.validate_eq_ok_iff o).mp hvalid
  have htext : (String.ofList (Glob.escape name.toList ++ Slots.glob m)).toList =
      Glob.escape name.toList ++ Slots.glob m := String.toList_ofList
  obtain ⟨p, hp, hterm, hprefix, hmatch⟩ := PatternQuery.ofGlob_spec
    (t := ⟨o.fields.references, String.ofList (Glob.escape name.toList ++ Slots.glob m)⟩)
    (by rw [htext]; exact hsize)
  have hleading : ∀ u, p.isMatch u = true → Text.startsWith u p.literalPrefix = true := by
    intro u hu
    rw [Text.startsWith_iff, hprefix, String.toList_ofList]
    exact Glob.leading_prefix ((hmatch u).mp hu)
  refine ⟨.wildcard p, createQuery_wildcard hfield hcaseless hp, ?_⟩
  intro allows ts
  rw [Query.Sat, PatternQuery.sat_iff hleading, hterm]
  refine exists_congr fun t => and_congr_right fun _ => and_congr_right fun _ => ?_
  rw [hmatch, htext, Glob.items_escape_append, Glob.isMatch_chars_append]
  simp only [Slots.isMatch_glob]
  constructor
  · rintro ⟨v, hv, hfits⟩
    exact ⟨name.toList, v, hv, rfl, hfits⟩
  · rintro ⟨_, v, hv, rfl, hfits⟩
    exact ⟨v, hv, hfits⟩

/-- **Usages of a name.** Over the documents that a session has indexed, the search for a name
succeeds and finds the documents within the scope that refer to that very name by kinds that meet
the mask. -/
theorem findUsages_finds_references (hs : Session.new o = .ok s) (docs : List UsageDocument)
    (hname : name ≠ "") (hm : m.isEmpty = false) {operator : Occur} (hop : operator ≠ .mustNot)
    (hsize : ∀ m' ∈ m.asked operator, KeepsToSize (usagePattern name m'))
    (scope : List ScopeElement) :
    ∃ r, s.findUsages (MemorySegment.ofDocuments (docs.map s.documentTerms)).segment name m operator
        scope = .ok r ∧ r.span = docs.length ∧ ∀ i, r.contains i = true ↔
      ∃ d K, docs[i]? = some d ∧ d.references.find? name = some K ∧ m.Meets K operator ∧
        InScope scope d.package := by
  obtain ⟨q, hq, r, hr, hspan, hmem⟩ := search_references hs docs hm hop
    (fun m' hm' => together_name hs (hsize m' hm')) scope
  have husages : s.usagesQuery name m operator = .ok q := by
    unfold usagesQuery UsageQueryBuilder.usagesQuery
    rw [verifyArgument_bind_eq_ok_iff, verifyArgument_bind_eq_ok_iff]
    exact ⟨by simpa using hname, by simp [hm], hq⟩
  refine ⟨r, ?_, hspan, fun i => ?_⟩
  · unfold findUsages
    rw [husages]
    exact hr
  · rw [hmem i]
    constructor
    · rintro ⟨d, n, K, hd, hK, hn, hmeets, hin⟩
      exact ⟨d, K, hd, String.toList_inj.mp hn ▸ hK, hmeets, hin⟩
    · rintro ⟨d, K, hd, hK, hmeets, hin⟩
      exact ⟨d, name, K, hd, hK, rfl, hmeets, hin⟩

/-- The pattern of a name is not too large, unless the name is very long. -/
theorem keepsToSize_usagePattern (hname : name.toList.length ≤ 8000) :
    KeepsToSize (usagePattern name m) := by
  have hitems : (Glob.items (Glob.escape name.toList ++ Slots.glob m)).length ≤
      name.toList.length + 6 := by
    have hslots : (Glob.items (Slots.glob m)).length ≤ 6 :=
      Nat.le_trans (Glob.length_items_le _) (Nat.le_of_eq (List.length_map _))
    rw [Glob.items_escape_append, List.length_append, List.length_map]
    exact Nat.add_le_add_left hslots _
  exact Glob.keepsToSize (by omega)

/-- Two documents of package `p`, of which the second does not call `a.B?`, and one of package
`q`. -/
def callers : List UsageDocument :=
  [(UsageDocument.new "p").addReference "a.B?" [.typeReference, .methodReference],
    (UsageDocument.new "p").addReference "a.B?" [.typeReference],
    (UsageDocument.new "q").addReference "a.B?" [.typeReference, .methodReference]]

/-- Only the first document both names and calls `a.B?` within the package `p`. -/
theorem findUsages_callers : ∃ r, Session.standard.findUsages
    (MemorySegment.ofDocuments (callers.map Session.standard.documentTerms)).segment "a.B?"
      (UsageMask.ofList [.typeReference, .methodReference]) .must
      [ScopeElement.narrowed .source ["p"]] = .ok r ∧
    r.contains 0 = true ∧ r.contains 1 = false ∧ r.contains 2 = false := by
  obtain ⟨r, hr, -, hmem⟩ := findUsages_finds_references new_standard callers
    (by decide : "a.B?" ≠ "")
    (by decide : (UsageMask.ofList [.typeReference, .methodReference]).isEmpty = false)
    (by decide : Occur.must ≠ .mustNot) (fun _ _ => keepsToSize_usagePattern (by decide))
    [ScopeElement.narrowed .source ["p"]]
  refine ⟨r, hr, (hmem 0).mpr ⟨_, _, rfl, rfl, ?_, ?_⟩, ?_, ?_⟩
  · intro k
    cases k <;> decide
  · exact .inr ⟨_, List.mem_singleton_self _, _, rfl, by decide⟩
  · rw [← Bool.not_eq_true, hmem 1]
    rintro ⟨d, K, hd, hK, hmeets, -⟩
    cases Option.some.inj hd
    cases Option.some.inj hK
    exact absurd (hmeets .methodReference (by decide)) (by decide)
  · rw [← Bool.not_eq_true, hmem 2]
    rintro ⟨d, K, hd, -, -, hnone | ⟨e, he, ps, hps, hp⟩⟩
    · cases hnone _ (List.mem_singleton_self _)
    · cases Option.some.inj hd
      cases List.mem_singleton.mp he
      cases Option.some.inj hps
      exact absurd hp (by decide)

end Session

end UsageIndex
