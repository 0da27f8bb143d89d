import UsageIndex.Proofs.Globs
import UsageIndex.Proofs.Satisfaction
import UsageIndex.Query

/-!
# Pattern queries

A pattern query carries, beside the compiled pattern, a text that every match is said to begin with.
As long as that is so, a document satisfies the query if one of its terms matches.

* **`Pattern.literalRun_escape_append`**: the literal text of an escaped text is that text.
* **`PatternQuery.Leads`**: every match begins with that text. **`PatternQuery.sat_iff`**: when a
  document then satisfies the query. **`MemorySegment.leads_iff_finds_matches`**: a search finds
  what matches exactly if that is so.
* **`PatternQuery.exists_ofGlob_iff`**, **`PatternQuery.isMatch_ofGlob`**: when the query of a glob
  is made, and what it matches.
* **`PatternQuery.ofGlob_spec`**, **`PatternQuery.ofPattern_spec`**: the queries of globs and
  patterns, if the patterns are not too large.
-/

namespace UsageIndex

open UsageIndex.Pattern (Describes KeepsToSize)

/-! ## Literal text -/

namespace Pattern

theorem startsOptional_escape_append (cs : List Char) {rest : List Char}
    (h : startsOptional rest = false) :
    startsOptional (escape cs ++ rest) = false := by
  cases cs with
  | nil => exact h
  | cons c cs =>
    unfold escape
    rw [List.flatMap_cons]
    unfold escapeChar
    by_cases hc : isMeta c = true
    · rw [if_pos hc]
      rfl
    · rw [if_neg hc]
      have hne : ∀ d, isMeta d = true → c ≠ d := fun d hd he => hc (he ▸ hd)
      simp [startsOptional, hne '*' (by decide), hne '?' (by decide), hne '\x7b' (by decide)]

theorem literalRun_escaped (c : Char) (cs : List Char) : literalRun ('\\' :: c :: cs) =
    if isMeta c && !startsOptional cs then c :: literalRun cs else [] := by
  rw [← isStop_eq_isMeta]
  rfl

theorem literalRun_cons {c : Char} (h : c ≠ '\\') (cs : List Char) : literalRun (c :: cs) =
    if isMeta c || startsOptional cs then [] else c :: literalRun cs := by
  rw [literalRun.eq_def, ← isStop_eq_isMeta]
  simp [h]

/-- **The literal text of an escaped text** is that text and the literal text of what follows. -/
theorem literalRun_escape_append {cs rest : List Char} (h : startsOptional rest = false) :
    literalRun (escape cs ++ rest) = cs ++ literalRun rest := by
  induction cs with
  | nil => rfl
  | cons c cs ih =>
    have hopt := startsOptional_escape_append cs h
    have hcons : escape (c :: cs) ++ rest = escapeChar c ++ (escape cs ++ rest) := by
      unfold escape
      rw [List.flatMap_cons, List.append_assoc]
    rw [hcons, List.cons_append, ← ih]
    unfold escapeChar
    by_cases hc : isMeta c = true
    · rw [if_pos hc, List.cons_append, List.cons_append, List.nil_append, literalRun_escaped, hc,
        hopt]
      rfl
    · have hback : c ≠ '\\' := by
        rintro rfl
        exact hc (by decide)
      have hmeta : isMeta c = false := by simpa using hc
      rw [if_neg hc, List.cons_append, List.nil_append, literalRun_cons hback, hmeta, hopt]
      rfl

end Pattern

/-! ## Queries -/

namespace PatternQuery

/-- Every text that matches begins with the literal prefix. -/
def Leads (p : PatternQuery) : Prop :=
  ∀ t, p.isMatch t = true → Text.startsWith t p.literalPrefix = true

/-- If every match begins with the literal prefix, it is enough for a term to match. -/
theorem sat_iff {p : PatternQuery} (h : p.Leads) {ts : List Term} :
    p.Sat ts ↔ ∃ t ∈ ts, t.field = p.term.field ∧ p.isMatch t.text = true := by
  unfold Sat
  refine exists_congr fun t => and_congr_right fun _ => and_congr_right fun _ => ?_
  exact ⟨fun ht => ht.2, fun ht => ⟨h _ ht, ht⟩⟩

theorem ofGlob_eq_ok_iff {t : Term} {p : PatternQuery} : ofGlob t = .ok p ↔ ∃ c,
    CompiledPattern.compile t.text (Glob.toPattern (Glob.items t.text.toList)) false = .ok c ∧
      p = ⟨t, c, String.ofList (Glob.leading (Glob.items t.text.toList))⟩ := by
  unfold ofGlob
  simp only
  cases CompiledPattern.compile t.text (Glob.toPattern (Glob.items t.text.toList)) false with
  | ok c => simp [eq_comm]
  | error e => simp

/-- The query of a glob is made exactly if its pattern is not too large. -/
theorem exists_ofGlob_iff {t : Term} :
    (∃ p, ofGlob t = .ok p) ↔ KeepsToSize (Glob.toPattern (Glob.items t.text.toList)) := by
  rw [← Pattern.exists_compile_iff_keepsToSize (Glob.describes_toPattern _) t.text]
  constructor
  · rintro ⟨p, hp⟩
    obtain ⟨c, hc, -⟩ := ofGlob_eq_ok_iff.mp hp
    exact ⟨c, hc⟩
  · rintro ⟨c, hc⟩
    exact ⟨_, ofGlob_eq_ok_iff.mpr ⟨c, hc, rfl⟩⟩

/-- The query of a glob matches what the glob does. -/
theorem isMatch_ofGlob {t : Term} {p : PatternQuery} (h : ofGlob t = .ok p) (u : String) :
    p.isMatch u = true ↔ Glob.isMatch (Glob.items t.text.toList) u.toList = true := by
  obtain ⟨c, hc, rfl⟩ := ofGlob_eq_ok_iff.mp h
  exact Pattern.isMatch_of_describes (Glob.describes_toPattern _) t.text hc u

/-- **The query of a glob.** It is made if its pattern is not too large, and it matches what the
glob does. -/
theorem ofGlob_spec {t : Term}
    (hsize : Pattern.KeepsToSize (Glob.toPattern (Glob.items t.text.toList))) :
    ∃ p, ofGlob t = .ok p ∧ p.term = t ∧
      p.literalPrefix = String.ofList (Glob.leading (Glob.items t.text.toList)) ∧
      ∀ u, p.isMatch u = true ↔ Glob.isMatch (Glob.items t.text.toList) u.toList = true := by
  obtain ⟨p, hp⟩ := exists_ofGlob_iff.mpr hsize
  obtain ⟨c, -, rfl⟩ := ofGlob_eq_ok_iff.mp hp
  exact ⟨_, hp, rfl, rfl, isMatch_ofGlob hp⟩

/-- **The query of a pattern.** It is made if the pattern is not too large, and it matches what the
pattern describes. -/
theorem ofPattern_spec {t : Term} {L : List Char → Prop}
    (h : Describes t.text.toList L) (hsize : KeepsToSize t.text.toList) :
    ∃ p, ofPattern t false = .ok p ∧ p.term = t ∧
      p.literalPrefix = String.ofList (Pattern.leadingLiteral t.text.toList) ∧
      ∀ u, p.isMatch u = true ↔ L u.toList := by
  obtain ⟨p, hp, hmatch⟩ := Pattern.compile_describes h hsize t.text
  refine ⟨⟨t, p, String.ofList (Pattern.leadingLiteral t.text.toList)⟩, ?_, rfl, rfl, hmatch⟩
  unfold ofPattern
  simp only [hp]
  rfl

end PatternQuery

/-- **A search in memory finds every document with a term that matches**, whatever the documents,
exactly if every match begins with the literal prefix. -/
theorem MemorySegment.leads_iff_finds_matches {p : PatternQuery} : p.Leads ↔
    ∀ docs, ∃ r, patternSet (ofDocuments docs).segment p = .ok r ∧ r.span = docs.length ∧
      ∀ i, r.contains i = true ↔ ∃ ts, docs[i]? = some ts ∧
        ∃ t ∈ ts, t.field = p.term.field ∧ p.isMatch t.text = true := by
  constructor
  · intro h docs
    obtain ⟨r, hr, hspan, hmem⟩ := patternSet_memory docs p
    refine ⟨r, hr, hspan, fun i => ?_⟩
    rw [hmem i]
    simp only [PatternQuery.sat_iff h]
  · -- a text that matches is looked for in a document that has no other
    intro h t ht
    obtain ⟨r, hr, -, hfinds⟩ := h [[⟨p.term.field, t⟩]]
    obtain ⟨r', hr', -, hmem⟩ := patternSet_memory [[⟨p.term.field, t⟩]] p
    rw [hr] at hr'
    cases hr'
    have hcontains := (hfinds 0).mpr ⟨_, rfl, _, List.mem_singleton_self _, rfl, ht⟩
    obtain ⟨_, hts, u, hu, -, hstarts, -⟩ := (hmem 0).mp hcontains
    cases hts
    rw [List.mem_singleton.mp hu] at hstarts
    exact hstarts

end UsageIndex
