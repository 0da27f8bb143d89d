import UsageIndex.Proofs.Pattern.Lead
import UsageIndex.Proofs.PatternQueries
import UsageIndex.Proofs.UsageQueries

/-!
# Regexp queries

A regexp query reads the dictionary from the literal text on that stands at the start of its
pattern. The text is read off the pattern by its characters: it is ended by a repetition that makes
its last character optional, but neither by a second repetition behind one that asks for a copy nor
by a repetition of the whole pattern, so that some patterns match texts that the search does not
come to.

* **`createQuery_regexp_finds_matches`**: when a regexp query finds what it matches.
* **`createQuery_regexp_misses_match`**: a pattern with two repetitions, of which it does not.
-/

namespace UsageIndex

/-- What the query of a pattern consists of. -/
theorem PatternQuery.ofPattern_eq_ok_iff {t : Term} {caseless : Bool} {p : PatternQuery} :
    ofPattern t caseless = .ok p ↔ ∃ e,
      Pattern.compile (Pattern.baseFlags caseless) (Pattern.anchored t.text.toList) = .ok e ∧
      p = ⟨t, ⟨String.ofList (Pattern.anchored t.text.toList), caseless, e⟩,
        if caseless then "" else String.ofList (Pattern.leadingLiteral t.text.toList)⟩ := by
  unfold ofPattern CompiledPattern.compile
  simp only
  cases Pattern.compile (Pattern.baseFlags caseless) (Pattern.anchored t.text.toList) with
  | ok e => simp [eq_comm]
  | error f => simp

/-- A pattern that matches up to case has no literal prefix, and in any other nothing may take the
literal text away. -/
theorem PatternQuery.leads_ofPattern {t : Term} {caseless : Bool} {p : PatternQuery}
    (h : ofPattern t caseless = .ok p)
    (hlead : caseless = true ∨ Pattern.leadHolds t.text.toList = true) : p.Leads := by
  obtain ⟨e, he, rfl⟩ := ofPattern_eq_ok_iff.mp h
  intro u hu
  cases caseless with
  | true => exact Text.startsWith_empty u
  | false =>
    have hoccurs : e.Occurs u.toList := (Pattern.Expr.occursIn_iff _ _).mp hu
    have hholds := hlead.resolve_left (by decide)
    rw [Text.startsWith_iff]
    have hprefix := Pattern.leadingLiteral_prefix_of_occurs he hholds hoccurs
    simpa using hprefix

/-- **Regexp queries.** A query of a pattern finds the documents with a term that matches, in every
segment in memory, exactly if every match begins with its literal prefix. That is so if the pattern
matches up to case, and if nothing takes the literal text of the pattern away. -/
theorem createQuery_regexp_finds_matches {field caselessField value : String} {kind : QueryKind}
    {q : Query} (h : createQuery field caselessField value kind = .ok q)
    (hkind : kind = .regexp ∨ kind = .caselessRegexp) :
    ∃ p, q = .regexp p ∧
      p.term = ⟨if kind = .regexp then field else caselessField, value⟩ ∧
      (kind = .caselessRegexp ∨ Pattern.leadHolds value.toList = true → p.Leads) ∧
      (p.Leads ↔ ∀ docs, ∃ r, execute (MemorySegment.ofDocuments docs).segment q = .ok r ∧
        r.span = docs.length ∧ ∀ i, r.contains i = true ↔ ∃ ts, docs[i]? = some ts ∧
          ∃ t ∈ ts, t.field = p.term.field ∧ p.isMatch t.text = true) := by
  obtain ⟨-, -, h⟩ := createQuery_eq_ok_iff.mp h
  have hfinds : ∀ (p : PatternQuery) (s : Segment) (r : DocSet),
      execute s (.regexp p) = .ok r ↔ patternSet s p = .ok r := by
    intro p s r
    rw [execute, orError_eq_ok]
  rcases hkind with rfl | rfl
  · obtain ⟨p, hp, rfl⟩ := h
    refine ⟨p, rfl, PatternQuery.term_ofPattern hp, fun hlead => ?_, ?_⟩
    · exact PatternQuery.leads_ofPattern hp (.inr (hlead.resolve_left (by decide)))
    · simp only [hfinds]
      exact MemorySegment.leads_iff_finds_matches
  · obtain ⟨p, hp, rfl⟩ := h
    refine ⟨p, rfl, PatternQuery.term_ofPattern hp, fun _ => ?_, ?_⟩
    · exact PatternQuery.leads_ofPattern hp (.inl rfl)
    · simp only [hfinds]
      exact MemorySegment.leads_iff_finds_matches

/-- The query of a pattern whose last character is repeated, at least once. -/
def repeatedQuery : PatternQuery where
  term := ⟨"f", "ab+"⟩
  pattern := ⟨"^(?:ab+)$", false, .seq (.edge .textStart)
    (.seq (.seq (.one (.single 'a')) (.rep (.one (.single 'b')) 1 none)) (.edge .textEnd))⟩
  literalPrefix := "ab"

/-- Of three documents, the first has a text of the field that matches, and it is found. -/
theorem createQuery_regexp_repeated : ∃ r,
    createQuery "f" "g" "ab+" .regexp = .ok (.regexp repeatedQuery) ∧
      execute (MemorySegment.ofDocuments [[⟨"f", "abb"⟩], [⟨"f", "a"⟩], [⟨"g", "ab"⟩]]).segment
        (.regexp repeatedQuery) = .ok r ∧
      r.contains 0 = true ∧ r.contains 1 = false ∧ r.contains 2 = false := by
  have hpattern : PatternQuery.ofPattern ⟨"f", "ab+"⟩ false = .ok repeatedQuery := by
    decide +kernel
  have hquery : createQuery "f" "g" "ab+" .regexp = .ok (.regexp repeatedQuery) :=
    createQuery_regexp (by decide) (by decide) hpattern
  obtain ⟨p, hp, -, hleads, hfinds⟩ := createQuery_regexp_finds_matches hquery (.inl rfl)
  cases hp
  obtain ⟨r, hr, -, hmem⟩ := hfinds.mp (hleads (.inr (by decide +kernel)))
    [[⟨"f", "abb"⟩], [⟨"f", "a"⟩], [⟨"g", "ab"⟩]]
  have habb : repeatedQuery.isMatch "abb" = true := by decide +kernel
  refine ⟨r, hquery, hr, (hmem 0).mpr ⟨_, rfl, _, List.mem_singleton_self _, rfl, habb⟩, ?_, ?_⟩
  · have hmatch : repeatedQuery.isMatch "a" = false := by decide +kernel
    rw [← Bool.not_eq_true, hmem 1]
    simp [hmatch]
  · rw [← Bool.not_eq_true, hmem 2]
    simp [repeatedQuery]

/-- The query of a pattern whose first character is repeated twice, at least once and then any
number of times. -/
def twiceRepeatedQuery : PatternQuery where
  term := ⟨"f", "a+*b"⟩
  pattern := ⟨"^(?:a+*b)$", false, .seq (.edge .textStart)
    (.seq (.seq (.rep (.rep (.one (.single 'a')) 1 none) 0 none) (.one (.single 'b')))
      (.edge .textEnd))⟩
  literalPrefix := "a"

/-- A text matches without the repeated character, with which the literal prefix begins, and is not
found. -/
theorem createQuery_regexp_misses_match :
    createQuery "f" "f" "a+*b" .regexp = .ok (.regexp twiceRepeatedQuery) ∧
      twiceRepeatedQuery.isMatch "b" = true ∧ ∃ r,
        execute (MemorySegment.ofDocuments [[⟨"f", "b"⟩]]).segment (.regexp twiceRepeatedQuery) =
          .ok r ∧ r.contains 0 = false := by
  have hpattern : PatternQuery.ofPattern ⟨"f", "a+*b"⟩ false = .ok twiceRepeatedQuery := by
    decide +kernel
  refine ⟨createQuery_regexp (by decide) (by decide) hpattern, by decide +kernel,
    DocSet.empty 1, ?_, rfl⟩
  decide +kernel

end UsageIndex
