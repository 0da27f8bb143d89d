import UsageIndex.Proofs.Pattern.Appended
import UsageIndex.Proofs.Slots

/-!
# References to the names of a pattern

A query for the names that match a pattern puts the slots behind the text of the pattern, and not
behind a group that holds it. What the query matches is told by the end of the pattern: the slots
belong to its last alternative, what the pattern asserts at its end is asserted of them, and a dot
among them follows the flags that the pattern has changed.

* **`Slots.consume_parts`**: what the slots of a pattern match under some flags.
* **`openEnded`**: slots behind a pattern are asked for behind each of its matches.
* **`createQuery_slots_behind_pattern`**: what the query of a pattern with slots behind it matches.
* **`createQuery_slots_behind_alternatives`**: an alternative that matches without slots.
-/

namespace UsageIndex

open UsageIndex.Pattern (IsPattern Joins KeepsToLimits MatchesWhole baseFlags lastLevel?)

/-! ## Slots under flags -/

/-- A text has line breaks only where the dot matches them. -/
def Pattern.Flags.Allow (flags : Flags) (w : List Char) : Prop := flags.dotAll = true ∨ '\n' ∉ w

namespace Slots

open UsageIndex.Pattern

theorem joins_allow {flags : Flags} {A B : List Char → Prop} {w : List Char} :
    Joins (fun u => A u ∧ flags.Allow u) (fun v => B v ∧ flags.Allow v) w ↔
      Joins A B w ∧ flags.Allow w := by
  have happend : ∀ u v, flags.Allow (u ++ v) ↔ flags.Allow u ∧ flags.Allow v := by
    intro u v
    unfold Flags.Allow
    rw [List.mem_append, not_or, or_and_left]
  constructor
  · rintro ⟨u, v, rfl, ⟨hu, hu'⟩, hv, hv'⟩
    exact ⟨⟨u, v, rfl, hu, hv⟩, (happend u v).mpr ⟨hu', hv'⟩⟩
  · rintro ⟨⟨u, v, rfl, hu, hv⟩, hw⟩
    obtain ⟨hu', hv'⟩ := (happend u v).mp hw
    exact ⟨u, v, rfl, ⟨hu, hu'⟩, hv, hv'⟩

/-- No other character is equal to `+` up to case. -/
theorem contains_plus (caseless : Bool) (c : Char) :
    ((CharSet.single '+').foldIf caseless).contains c = true ↔ c = '+' := by
  have hvariants : (Text.variants '+').all (· == '+') = true := by decide +kernel
  cases caseless with
  | false => simp [CharSet.foldIf]
  | true =>
    refine CharSet.contains_caseless.trans ⟨?_, ?_⟩
    · rintro ⟨d, hfold, hd⟩
      rw [CharSet.contains_single, decide_eq_true_eq] at hd
      rw [hd] at hfold
      exact eq_of_beq (List.all_eq_true.mp hvariants c (Text.mem_variants_iff.mpr hfold.symm))
    · rintro rfl
      exact ⟨'+', rfl, by simp⟩

/-- What the dot matches under some flags. -/
theorem contains_dot (flags : Flags) (c : Char) :
    (if flags.dotAll then .all else .compl (.single '\n') : CharSet).contains c = true ↔
      flags.Allow [c] := by
  unfold Flags.Allow
  cases flags.dotAll with
  | true => simp [CharSet.contains_all]
  | false =>
    have hcompl : (CharSet.compl (.single '\n')).contains c =
        !(CharSet.single '\n').contains c := rfl
    simp only [Bool.false_eq_true, if_false, hcompl, CharSet.contains_single,
      List.mem_singleton, Bool.not_eq_true', decide_eq_false_iff_not, false_or]
    exact ⟨Ne.symm, Ne.symm⟩

/-- The token of a slot of a pattern. -/
def token (m : UsageMask) (k : UsageKind) : Token := if m.contains k then .char '+' else .anyChar

/-- A slot adds a part that consumes what may stand in it. -/
theorem exists_part (flags : Flags) (m : UsageMask) (k : UsageKind) :
    ∃ p, (token m k).part? flags = some p ∧
      Consume [p] fun w => FitsOne m k w ∧ flags.Allow w := by
  unfold token
  by_cases hk : m.contains k = true
  · rw [if_pos hk]
    refine ⟨_, rfl, fun b w a => (Consume.one _ 0 b w a).trans ?_⟩
    simp only [contains_plus, fitsOne_of_contains hk]
    constructor
    · rintro ⟨c, rfl, rfl⟩
      exact ⟨rfl, .inr (by decide)⟩
    · rintro ⟨rfl, -⟩
      exact ⟨'+', rfl, rfl⟩
  · rw [if_neg hk]
    refine ⟨_, rfl, fun b w a => (Consume.one _ 0 b w a).trans ?_⟩
    simp only [fitsOne_of_not_contains hk, contains_dot]
    constructor
    · rintro ⟨c, rfl, hc⟩
      exact ⟨⟨c, rfl⟩, hc⟩
    · rintro ⟨⟨c, rfl⟩, hc⟩
      exact ⟨c, rfl, hc⟩

/-- **The slots of a pattern** match what fits, under any flags where they stand. -/
theorem consume_parts (flags : Flags) (m : UsageMask) : ∃ parts,
    List.Forall₂ (fun t p => t.part? flags = some p) (UsageKind.all.map (token m)) parts ∧
      Consume parts fun w => Fits m w ∧ flags.Allow w := by
  unfold Fits
  generalize UsageKind.all = ks
  induction ks with
  | nil =>
    refine ⟨[], .nil, fun b w a => (Consume.nil b w a).trans ?_⟩
    simp only [List.forall₂_nil_left_iff]
    constructor
    · rintro rfl
      exact ⟨rfl, .inr List.not_mem_nil⟩
    · exact And.left
  | cons k ks ih =>
    obtain ⟨p, hp, hconsume⟩ := exists_part flags m k
    obtain ⟨parts, hparts, hconsume'⟩ := ih
    refine ⟨p :: parts, .cons hp hparts, fun b w a => ?_⟩
    simp only [fits_cons]
    exact (hconsume.append hconsume' b w a).trans joins_allow

theorem reads_pattern (m : UsageMask) : Reads (pattern m) (UsageKind.all.map (token m)) := by
  unfold pattern
  induction UsageKind.all with
  | nil => exact .nil
  | cons k ks ih =>
    have hslot : Reads (if m.contains k = true then ['\\', '+'] else ['.']) [token m k] := by
      unfold token
      by_cases hk : m.contains k = true
      · rw [if_pos hk, if_pos hk]
        exact reads_escapeChar '+'
      · rw [if_neg hk, if_neg hk]
        exact reads_dot
    rw [List.flatMap_cons]
    exact hslot.append ih

theorem detached_pattern (m : UsageMask) : Detached (pattern m) := by
  have hnil : Detached [] := ⟨nofun, nofun⟩
  have h := (reads_pattern m).detached hnil
  rwa [List.append_nil] at h

theorem tokens_pattern (m : UsageMask) :
    tokens (pattern m) = .ok (UsageKind.all.map (token m)) := by
  have hnil : Detached [] := ⟨nofun, nofun⟩
  have h := (reads_pattern m).tokens hnil tokens_nil
  rwa [List.append_nil, List.append_nil] at h

/-- A name with slots has at least six characters. -/
theorem le_length_of_joins {N : List Char → Prop} {m : UsageMask} {t : List Char}
    (h : Joins N (Fits m) t) : 6 ≤ t.length := by
  obtain ⟨n, s, rfl, -, hs⟩ := h
  rw [List.length_append, hs.length_eq]
  exact Nat.le_add_left 6 _

end Slots

/-! ## Queries -/

/-- Slots behind a pattern are asked for behind each of its matches: the pattern has one
alternative, at its end nothing is asserted of what follows, and there the dot matches line
breaks. -/
def Pattern.openEnded (cs : List Char) : Bool :=
  (lastLevel? (baseFlags false) cs).any fun l =>
    l.alternatives.isEmpty && l.lastAlternative.expr.settled && l.flags.dotAll

-- an alternative before the end, an assertion at the end, and a flag that is switched off
example : Pattern.openEnded ['a', '|', 'b'] = false := by decide +kernel
example : Pattern.openEnded ['(', 'a', '$', '|', 'b', ')'] = false := by decide +kernel
example : Pattern.openEnded ['a', '(', '?', '-', 's', ')'] = false := by decide +kernel

/-- **Slots behind a pattern.** A query is made of every pattern with slots behind it that keeps to
the limits. It matches what an alternative before the last matches as a whole, and what the last
alternative matches in front of six characters that fit the slots. If the pattern is open ended,
these are the texts of a match of the whole pattern and six characters that fit. -/
theorem createQuery_slots_behind_pattern {references caselessField r : String} {m : UsageMask}
    (hreferences : references ≠ "") (hcaseless : caselessField ≠ "")
    (hpattern : IsPattern r.toList) (hlimits : KeepsToLimits false (r.toList ++ Slots.pattern m)) :
    ∃ p l, createQuery references caselessField
        ((Encoder.slots references).referencesTerm r m true).text .regexp = .ok (.regexp p) ∧
      p.term = (Encoder.slots references).referencesTerm r m true ∧
      lastLevel? (baseFlags false) r.toList = some l ∧
      (∀ t, p.isMatch t = true ↔ (∃ e ∈ l.alternatives, e.expr.Fills t.toList) ∨
        ∃ n s, t.toList = n ++ s ∧ l.lastAlternative.expr.Spans [] n s ∧
          Slots.Fits m s ∧ l.flags.Allow s) ∧
      (Pattern.openEnded r.toList = true → ∀ t, p.isMatch t = true ↔
        Joins (MatchesWhole false r.toList) (Slots.Fits m) t.toList) := by
  obtain ⟨l, hl⟩ := Pattern.exists_lastLevel hpattern (baseFlags false)
  obtain ⟨parts, hparts, hconsume⟩ := Slots.consume_parts l.flags m
  have hterm : (Encoder.slots references).referencesTerm r m true =
      ⟨references, String.ofList (r.toList ++ Slots.pattern m)⟩ := rfl
  obtain ⟨b, hjoined⟩ := Pattern.lastLevel?_append hl (Slots.detached_pattern m)
    (Slots.tokens_pattern m) hparts
  have hpattern' : IsPattern (r.toList ++ Slots.pattern m) :=
    ⟨_, Pattern.parse_eq_ok_iff_lastLevel?.mpr ⟨_, hjoined, rfl⟩⟩
  rw [← String.toList_ofList (l := r.toList ++ Slots.pattern m)] at hpattern' hlimits
  obtain ⟨p, hp, hpterm, hmatch⟩ := PatternQuery.ofPattern_matches_whole
    (t := (Encoder.slots references).referencesTerm r m true) hpattern' hlimits
  refine ⟨p, l, createQuery_regexp hreferences hcaseless hp, hpterm, hl, fun t => ?_,
    fun hopen t => ?_⟩
  · rw [hmatch, hterm, String.toList_ofList, Pattern.matchesWhole_append hl
      (Slots.detached_pattern m) (Slots.tokens_pattern m) hparts]
    simp only [hconsume _ _ _]
  · have hend : l.alternatives = [] ∧ l.lastAlternative.expr.settled = true ∧
        l.flags.dotAll = true := by
      simpa [Pattern.openEnded, hl, and_assoc] using hopen
    obtain ⟨hsingle, hsettled, hdot⟩ := hend
    rw [hmatch, hterm, String.toList_ofList, Pattern.matchesWhole_append_of_settled hl
      (Slots.detached_pattern m) (Slots.tokens_pattern m) hparts hsingle hsettled]
    simp only [hconsume _ _ _, Pattern.Flags.Allow, hdot, true_or, and_true]
    rfl

/-- A pattern with two alternatives in a group. A reference to a name that it matches is matched if
the document uses the name in all ways, and a name without slots is not. -/
theorem createQuery_slots_behind_group : ∃ p,
    createQuery "r" "c" ((Encoder.slots "r").referencesTerm "a[.](b|c*)" .all true).text .regexp =
        .ok (.regexp p) ∧
      p.isMatch "a.cc++++++" = true ∧ p.isMatch "a.cc++++-+" = false ∧
      p.isMatch "a.b" = false := by
  have hpattern : IsPattern "a[.](b|c*)".toList := by decide +kernel
  obtain ⟨p, -, hp, -, -, -, hmatch⟩ := createQuery_slots_behind_pattern (m := UsageMask.all)
    (by decide : "r" ≠ "") (by decide : "c" ≠ "") hpattern (by decide +kernel)
  have hmatch := hmatch (by decide +kernel)
  have hpresent : ∀ (n : List Char) (K : UsageMask),
      Joins (MatchesWhole false "a[.](b|c*)".toList) (Slots.Fits .all) (n ++ Slots.present K) ↔
        MatchesWhole false "a[.](b|c*)".toList n ∧ UsageMask.all.Within K :=
    fun _ _ => Slots.joins_present
  refine ⟨p, hp, ?_, ?_, ?_⟩
  · exact (hmatch _).mpr ((hpresent "a.cc".toList .all).mpr ⟨by decide +kernel, fun _ hk => hk⟩)
  · rw [← Bool.not_eq_true, hmatch]
    intro h
    have hwithin := ((hpresent "a.cc".toList (.ofList [.superClass, .superInterface, .typeReference,
      .methodReference, .functionalImplementors])).mp h).2
    exact absurd (hwithin .fieldReference rfl) (by decide)
  · rw [← Bool.not_eq_true, hmatch]
    exact fun h => absurd (Slots.le_length_of_joins h) (by decide)

/-- A pattern of two alternatives. The first matches a text as it is, and there are no slots in
it. -/
theorem createQuery_slots_behind_alternatives : IsPattern "a|b".toList ∧ ∃ p,
    createQuery "r" "c" ((Encoder.slots "r").referencesTerm "a|b" .all true).text .regexp =
        .ok (.regexp p) ∧
      p.isMatch "a" = true ∧
      ¬ Joins (MatchesWhole false "a|b".toList) (Slots.Fits .all) "a".toList := by
  have hpattern : IsPattern ("a|b".toList ++ Slots.pattern .all) := by decide +kernel
  obtain ⟨p, hp, -, hmatch⟩ := @PatternQuery.ofPattern_matches_whole
    ((Encoder.slots "r").referencesTerm "a|b" .all true) false hpattern (by decide +kernel)
  refine ⟨by decide +kernel, p, createQuery_regexp (by decide) (by decide) hp,
    (hmatch _).mpr (by decide +kernel), fun h => ?_⟩
  exact absurd (Slots.le_length_of_joins h) (by decide)

end UsageIndex
