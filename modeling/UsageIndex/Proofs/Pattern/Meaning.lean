import UsageIndex.Pattern.Search.Lemmas
import UsageIndex.Proofs.Pattern.Enclosed

/-!
# What pieces of patterns mean

The parts that a text adds to a pattern consume some texts, whatever stands around them. Parts one
after the other consume what each of them does, one after the other, and a pattern between the ends
of a text consumes the text as a whole.

* **`Describes`**: a text is a pattern of some texts. It is put together with the text
  (`Describes.append`).
* **`compile_describes`**: what a compiled pattern matches. It is compiled if it is not too large
  (`KeepsToSize`); how deep it is nested does not depend on its length.
-/

namespace UsageIndex.Pattern

/-! ## Expressions -/

namespace Expr

variable {p q : Expr} {b u w a : List Char}

theorem spans_empty : Spans empty b w a ↔ w = [] := by
  constructor
  · rintro ⟨⟩
    rfl
  · rintro rfl
    exact .empty

theorem spans_edge {x : Assertion} :
    Spans (edge x) b w a ↔ w = [] ∧ x.holds b.head? a.head? = true := by
  constructor
  · rintro ⟨⟩
    exact ⟨rfl, ‹_›⟩
  · rintro ⟨rfl, h⟩
    exact .edge h

theorem spans_one {s : CharSet} : Spans (one s) b w a ↔ ∃ c, w = [c] ∧ s.contains c = true := by
  constructor
  · rintro ⟨⟩
    exact ⟨_, rfl, ‹_›⟩
  · rintro ⟨c, rfl, h⟩
    exact .one h

theorem spans_seq : Spans (seq p q) b w a ↔
    ∃ u v, w = u ++ v ∧ Spans p b u (v ++ a) ∧ Spans q (u.reverse ++ b) v a := by
  constructor
  · rintro ⟨⟩
    exact ⟨_, _, rfl, ‹_›, ‹_›⟩
  · rintro ⟨u, v, rfl, hu, hv⟩
    exact .seq hu hv

/-- One after the other, whether or not one of the two is left out because it consumes nothing by
its form. -/
theorem spans_andThen : Spans (andThen p q) b w a ↔
    ∃ u v, w = u ++ v ∧ Spans p b u (v ++ a) ∧ Spans q (u.reverse ++ b) v a := by
  unfold andThen
  split
  · simp only [spans_empty]
    constructor
    · exact fun h => ⟨[], w, rfl, rfl, h⟩
    · rintro ⟨u, v, rfl, rfl, h⟩
      exact h
  · simp only [spans_empty]
    constructor
    · exact fun h => ⟨w, [], (List.append_nil w).symm, h, rfl⟩
    · rintro ⟨u, v, rfl, h, rfl⟩
      rwa [List.append_nil]
  · exact spans_seq

theorem spans_alt : Spans (alt p q) b w a ↔ Spans p b w a ∨ Spans q b w a := by
  constructor
  · rintro ⟨⟩
    · exact .inl ‹_›
    · exact .inr ‹_›
  · rintro (h | h)
    · exact .altLeft h
    · exact .altRight h

/-- One character, repeated. -/
theorem spans_rep_one {s : CharSet} {lo : Nat} : Spans (rep (one s) lo none) b w a ↔
    lo ≤ w.length ∧ ∀ c ∈ w, s.contains c = true := by
  constructor
  · intro h
    generalize he : rep (one s) lo none = e at h
    induction h generalizing lo with
    | empty | edge | one | seq | altLeft | altRight => cases he
    | repDone =>
      cases he
      exact ⟨Nat.le_refl 0, fun c hc => absurd hc List.not_mem_nil⟩
    | repMore _ hu _ _ ih =>
      cases he
      obtain ⟨c, rfl, hc⟩ := spans_one.mp hu
      obtain ⟨hlo, hv⟩ := ih rfl
      refine ⟨?_, List.forall_mem_cons.mpr ⟨hc, hv⟩⟩
      rw [List.length_append, List.length_singleton]
      omega
  · rintro ⟨hlo, hw⟩
    induction w generalizing lo b with
    | nil =>
      rw [Nat.le_zero.mp hlo]
      exact .repDone
    | cons c w ih =>
      obtain ⟨hc, hw⟩ := List.forall_mem_cons.mp hw
      have hlo' : lo - 1 ≤ w.length := by
        rw [List.length_cons] at hlo
        omega
      exact .repMore (u := [c]) (by simp) (.one hc) (ih hlo' hw)

end Expr

/-! ## Parts -/

/-- One text after the other. -/
def Joins (L L' : List Char → Prop) (w : List Char) : Prop := ∃ u v, w = u ++ v ∧ L u ∧ L' v

/-- Wherever they stand, parts one after the other consume the texts of `L`. -/
def Consume (parts : List Tree) (L : List Char → Prop) : Prop :=
  ∀ b w a, (Tree.exprOfParts parts).Spans b w a ↔ L w

theorem spans_exprOfParts_append {ps qs : List Tree} {b w a : List Char} :
    (Tree.exprOfParts (ps ++ qs)).Spans b w a ↔ ∃ u v, w = u ++ v ∧
      (Tree.exprOfParts ps).Spans b u (v ++ a) ∧
        (Tree.exprOfParts qs).Spans (u.reverse ++ b) v a := by
  induction ps generalizing b w with
  | nil =>
    simp only [Tree.exprOfParts, List.nil_append, Expr.spans_empty]
    constructor
    · exact fun h => ⟨[], w, rfl, rfl, h⟩
    · rintro ⟨u, v, rfl, rfl, h⟩
      exact h
  | cons p ps ih =>
    simp only [List.cons_append, Tree.exprOfParts, Expr.spans_andThen, ih]
    constructor
    · rintro ⟨u, _, rfl, hu, v, x, rfl, hv, hx⟩
      refine ⟨u ++ v, x, by rw [List.append_assoc], ⟨u, v, rfl, ?_, hv⟩, ?_⟩
      · rwa [← List.append_assoc]
      · rwa [List.reverse_append, List.append_assoc]
    · rintro ⟨_, x, rfl, ⟨u, v, rfl, hu, hv⟩, hx⟩
      refine ⟨u, v ++ x, by rw [List.append_assoc], ?_, v, x, rfl, hv, ?_⟩
      · rwa [List.append_assoc]
      · rwa [List.reverse_append, List.append_assoc] at hx

/-- What a list of parts means does not depend on how few they are. -/
theorem spans_ofParts (ps : List Tree) {b w a : List Char} :
    (Tree.ofParts ps).expr.Spans b w a ↔ (Tree.exprOfParts ps).Spans b w a := by
  unfold Tree.ofParts
  split
  · rw [Tree.expr, Tree.exprOfParts]
  · rename_i t
    simp only [Tree.exprOfParts, Expr.spans_andThen, Expr.spans_empty]
    constructor
    · exact fun h => ⟨w, [], (List.append_nil w).symm, h, rfl⟩
    · rintro ⟨u, v, rfl, h, rfl⟩
      rwa [List.append_nil]
  · rw [Tree.expr]

namespace Consume

variable {ps qs : List Tree} {L L' : List Char → Prop}

theorem nil : Consume [] (· = []) := fun _ _ _ => by rw [Tree.exprOfParts, Expr.spans_empty]

theorem append (h : Consume ps L) (h' : Consume qs L') : Consume (ps ++ qs) (Joins L L') :=
  fun b w a => by
    rw [spans_exprOfParts_append]
    unfold Joins
    simp only [h _ _ _, h' _ _ _]

/-- A single part. -/
theorem single {t : Tree} (h : ∀ b w a, t.expr.Spans b w a ↔ L w) : Consume [t] L :=
  fun b w a => (spans_ofParts [t]).symm.trans (h b w a)

theorem one (s : CharSet) (n : Nat) :
    Consume [.one s n] fun w => ∃ c, w = [c] ∧ s.contains c = true :=
  single fun _ _ _ => by rw [Tree.expr, Expr.spans_one]

theorem rep_one (s : CharSet) (n lo : Nat) : Consume [.rep (.one s n) lo none] fun w =>
    lo ≤ w.length ∧ ∀ c ∈ w, s.contains c = true :=
  single fun _ _ _ => by rw [Tree.expr, Tree.expr, Expr.spans_rep_one]

end Consume

/-- **Between the ends of a text** a pattern consumes the text as a whole. -/
theorem occurs_enclosed (tree : Tree) (t : List Char) :
    (enclosed tree).expr.Occurs t ↔ tree.expr.Fills t := by
  have hedges : ∀ b w a, (enclosed tree).expr.Spans b w a ↔
      b = [] ∧ a = [] ∧ tree.expr.Spans b w a := by
    intro b w a
    simp only [enclosed, Tree.expr, Tree.exprOfParts, Expr.spans_andThen, Expr.spans_edge,
      Expr.spans_empty, Assertion.holds, Option.isNone_iff_eq_none, List.head?_eq_none_iff]
    constructor
    · rintro ⟨_, _, rfl, ⟨rfl, rfl⟩, u, _, rfl, hu, _, _, rfl, ⟨rfl, ha⟩, rfl⟩
      simp only [List.nil_append, List.append_nil, List.reverse_nil] at ha hu ⊢
      exact ⟨trivial, ha, hu⟩
    · rintro ⟨rfl, rfl, hw⟩
      exact ⟨[], w, rfl, ⟨rfl, rfl⟩, w, [], (List.append_nil w).symm, hw, [], [], rfl,
        ⟨rfl, rfl⟩, rfl⟩
  unfold Expr.Occurs Expr.Fills
  simp only [hedges]
  constructor
  · rintro ⟨b, u, a, rfl, hb, rfl, hu⟩
    rw [hb] at hu
    rw [List.reverse_eq_nil_iff.mp hb]
    simpa using hu
  · exact fun ht => ⟨[], t, [], by simp, rfl, rfl, ht⟩

/-- **Between the ends of a text** parts consume the text as a whole. -/
theorem occurs_anchoredTree {ps : List Tree} {L : List Char → Prop} (h : Consume ps L)
    (t : List Char) : (anchoredTree ps).expr.Occurs t ↔ L t :=
  (occurs_enclosed (.ofParts ps) t).trans ((spans_ofParts ps).trans (h [] t []))

/-! ## Texts -/

/-- A text is a pattern of the texts of `L`: it writes parts that consume those, and they are not
nested too deeply for a whole pattern. -/
def Describes (cs : List Char) (L : List Char → Prop) : Prop :=
  ∃ parts, Writes cs parts ∧ Tree.tallest parts + 3 ≤ maxHeight ∧ Consume parts L

theorem tallest_append (ps qs : List Tree) :
    Tree.tallest (ps ++ qs) = max (Tree.tallest ps) (Tree.tallest qs) := by
  induction ps with
  | nil => simp [Tree.tallest]
  | cons p ps ih => simp only [List.cons_append, Tree.tallest, ih, Nat.max_assoc]

theorem height_anchoredTree_le (ps : List Tree) :
    (anchoredTree ps).height ≤ Tree.tallest ps + 3 := by
  have h : (Tree.ofParts ps).height ≤ Tree.tallest ps + 1 := by
    unfold Tree.ofParts
    split
    · exact Nat.zero_le _
    · simp only [Tree.tallest]
      omega
    · exact Nat.le_of_eq (by rw [Tree.height])
  simp only [anchoredTree, Tree.height, Tree.tallest]
  omega

namespace Describes

variable {cs ds : List Char} {L L' : List Char → Prop}

theorem congr (h : Describes cs L) (hL : ∀ w, L w ↔ L' w) : Describes cs L' := by
  obtain ⟨parts, hw, ht, hc⟩ := h
  exact ⟨parts, hw, ht, fun b w a => (hc b w a).trans (hL w)⟩

theorem nil : Describes [] (· = []) := ⟨[], .nil, by decide, .nil⟩

theorem append (h : Describes cs L) (h' : Describes ds L') : Describes (cs ++ ds) (Joins L L') := by
  obtain ⟨ps, hw, ht, hc⟩ := h
  obtain ⟨qs, hw', ht', hc'⟩ := h'
  refine ⟨ps ++ qs, hw.append hw', ?_, hc.append hc'⟩
  rw [tallest_append]
  omega

/-- **An escaped character is a pattern of that character.** -/
theorem escapeChar (c : Char) : Describes (escapeChar c) (· = [c]) := by
  have htallest : Tree.tallest [.one (.single c) 0] + 3 ≤ maxHeight := by
    simp [Tree.tallest, Tree.height, maxHeight]
  refine congr ⟨_, writes_escapeChar c, htallest, .one _ _⟩ fun w => ?_
  simp

/-- **An escaped text is a pattern of that text.** -/
theorem escape (cs : List Char) : Describes (escape cs) (· = cs) := by
  induction cs with
  | nil => exact nil
  | cons c cs ih =>
    refine congr (append (escapeChar c) ih) fun w => ?_
    simp [Joins]

/-- The dot is a pattern of any character, line breaks included. -/
theorem dot : Describes ['.'] fun w => ∃ c, w = [c] := by
  refine congr ⟨_, writes_dot, by decide, .one _ _⟩ fun w => ?_
  simp [CharSet.contains_all]

/-- A dot with a star is a pattern of any text. -/
theorem dotStar : Describes ['.', '*'] fun _ => True := by
  refine congr ⟨_, writes_dotStar, by decide, .rep_one _ _ _⟩ fun w => ?_
  simp [CharSet.contains_all]

/-- A pattern of the texts without dots that are not empty. -/
theorem notDotPlus : Describes ['[', '^', '\\', '.', ']', '+'] fun w => w ≠ [] ∧ '.' ∉ w := by
  refine congr ⟨_, writes_notDotPlus, by decide, .rep_one _ _ _⟩ fun w => ?_
  have hset : ∀ c, (notDot.toSet false).contains c = true ↔ c ≠ '.' := by
    intro c
    have hc : (notDot.toSet false).contains c = !(false || (CharSet.single '.').contains c) := rfl
    rw [hc, CharSet.contains_single]
    simp
  have hmem : (∀ c ∈ w, c ≠ '.') ↔ '.' ∉ w :=
    ⟨fun h hdot => h '.' hdot rfl, fun h c hc he => h (he ▸ hc)⟩
  simp only [hset]
  rw [hmem, Nat.succ_le_iff, List.length_pos_iff]

end Describes

/-! ## Whole patterns -/

/-- If a text is a pattern, it is not too large for an automaton. -/
def KeepsToSize (cs : List Char) : Prop :=
  ∀ t, parse (baseFlags false) (anchored cs) = .ok t →
    automatonSize .forward (.ofTree t) ≤ maxSize ∧ automatonSize .backward (.ofTree t) ≤ maxSize

/-- What is compiled is a pattern that keeps to the limits. -/
theorem compiledPattern_eq_ok_iff {given : String} {cs : List Char} {caseless : Bool}
    {p : CompiledPattern} : CompiledPattern.compile given cs caseless = .ok p ↔
      ∃ tree, parse (baseFlags caseless) (anchored cs) = .ok tree ∧ tree.WithinLimits ∧
        p = ⟨String.ofList (anchored cs), caseless, tree.expr⟩ := by
  unfold CompiledPattern.compile
  simp only
  cases he : Pattern.compile (baseFlags caseless) (anchored cs) with
  | ok e =>
    obtain ⟨tree, htree, hlimits, rfl⟩ := compile_eq_ok_iff.mp he
    simp [htree, hlimits, eq_comm]
  | error f =>
    simp only [reduceCtorEq, false_iff]
    rintro ⟨tree, htree, hlimits, -⟩
    rw [compile_eq_ok_iff.mpr ⟨tree, htree, hlimits, rfl⟩] at he
    cases he

section

variable {cs : List Char} {L : List Char → Prop} (h : Describes cs L) (given : String)
include h

/-- A pattern that is compiled matches the texts that it describes. -/
theorem isMatch_of_describes {p : CompiledPattern}
    (hp : CompiledPattern.compile given cs false = .ok p) (t : String) :
    p.isMatch t = true ↔ L t.toList := by
  obtain ⟨parts, hw, -, hc⟩ := h
  obtain ⟨tree, htree, -, rfl⟩ := compiledPattern_eq_ok_iff.mp hp
  rw [parse_anchored hw] at htree
  cases htree
  unfold CompiledPattern.isMatch
  rw [Expr.occursIn_iff, occurs_anchoredTree hc]

/-- A pattern is compiled exactly if it is not too large. -/
theorem exists_compile_iff_keepsToSize :
    (∃ p, CompiledPattern.compile given cs false = .ok p) ↔ KeepsToSize cs := by
  constructor
  · rintro ⟨p, hp⟩ tree htree
    obtain ⟨tree', htree', hlimits, -⟩ := compiledPattern_eq_ok_iff.mp hp
    rw [htree] at htree'
    cases htree'
    exact hlimits.2
  · intro hsize
    obtain ⟨parts, hw, ht, -⟩ := h
    have hparse := parse_anchored hw
    have hlimits : (anchoredTree parts).WithinLimits :=
      ⟨Nat.le_trans (height_anchoredTree_le parts) ht, hsize _ hparse⟩
    exact ⟨_, compiledPattern_eq_ok_iff.mpr ⟨_, hparse, hlimits, rfl⟩⟩

end

/-- **Compiled patterns.** A pattern that is not too large is compiled, and matches the texts that
it describes. -/
theorem compile_describes {cs : List Char} {L : List Char → Prop} (h : Describes cs L)
    (hsize : KeepsToSize cs) (given : String) :
    ∃ p, CompiledPattern.compile given cs false = .ok p ∧
      ∀ t, p.isMatch t = true ↔ L t.toList := by
  obtain ⟨p, hp⟩ := (exists_compile_iff_keepsToSize h given).mpr hsize
  exact ⟨p, hp, isMatch_of_describes h given hp⟩

end UsageIndex.Pattern
