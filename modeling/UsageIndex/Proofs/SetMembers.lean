import Mathlib.Logic.Basic
import Mathlib.Tactic.ByContra
import UsageIndex.DocSet

/-!
# The members of a set of documents

A set is kept by its flips, and its members are listed run by run. A bounded set has as many flips
as its runs have ends, so that the list leaves nothing out. What the operations on two sets do is
told by the members.

* **`Flips.mem_numbers`**, **`Flips.pairwise_numbers`**: the numbers of the runs are the members,
  ascending.
* **`DocSet.mem_toList`**, **`DocSet.pairwise_toList`**, **`DocSet.count_eq_length`**: a set lists
  its members, each once, and counts them.
* **`DocSet.eq_iff_members`**: sets of one span are told apart by their members.
* **`DocSet.union_spec`**, **`DocSet.intersect_spec`**, **`DocSet.difference_spec`**: two sets of
  one span combine.
-/

namespace UsageIndex

namespace Flips

/-! ## Runs -/

/-- The numbers of the runs. -/
def numbers (fs : List Nat) : List Nat := (runs fs).flatMap fun r => List.range' r.1 (r.2 - r.1)

theorem numbers_cons_cons (a b : Nat) (rest : List Nat) :
    numbers (a :: b :: rest) = List.range' a (b - a) ++ numbers rest := by
  unfold numbers
  rw [runs, List.flatMap_cons]

/-- From some number on there are no members. -/
def Bounded (fs : List Nat) : Prop := ∃ n, ∀ d, n ≤ d → memFrom false fs d = false

theorem not_bounded_singleton (a : Nat) : ¬ Bounded [a] := by
  rintro ⟨n, hn⟩
  have h := hn (max n a) (Nat.le_max_left n a)
  rw [memFrom, if_neg (Nat.not_lt.mpr (Nat.le_max_right n a))] at h
  cases h

/-- Behind a run, membership is decided by the flips behind it. -/
theorem memFrom_behind_run {a b d : Nat} (rest : List Nat) (hab : a < b) (hd : b ≤ d) :
    memFrom false (a :: b :: rest) d = memFrom false rest d := by
  rw [memFrom, if_neg (by omega), memFrom, if_neg (by omega)]
  rfl

theorem Bounded.behind_run {a b : Nat} {rest : List Nat} (h : Bounded (a :: b :: rest))
    (hab : a < b) : Bounded rest := by
  obtain ⟨n, hn⟩ := h
  refine ⟨max n b, fun d hd => ?_⟩
  rw [← memFrom_behind_run rest hab (Nat.le_trans (Nat.le_max_right n b) hd)]
  exact hn d (Nat.le_trans (Nat.le_max_left n b) hd)

/-- **The numbers of the runs are the members.** -/
theorem mem_numbers {fs : List Nat} (hp : fs.Pairwise (· < ·)) (hb : Bounded fs) (d : Nat) :
    d ∈ numbers fs ↔ memFrom false fs d = true := by
  fun_induction runs fs with
  | case1 a b rest ih =>
    rw [List.pairwise_cons, List.pairwise_cons] at hp
    obtain ⟨ha, hbrest, hrest⟩ := hp
    have hab : a < b := ha b List.mem_cons_self
    rw [numbers_cons_cons, List.mem_append, ih hrest (hb.behind_run hab), List.mem_range'_1]
    by_cases hd : b ≤ d
    · rw [memFrom_behind_run rest hab hd]
      exact or_iff_right (by omega)
    · -- before the end of the run nothing behind it counts
      have hbelow : memFrom false rest d = false :=
        memFrom_of_lt fun f hf => Nat.lt_trans (Nat.lt_of_not_le hd) (hbrest f hf)
      by_cases had : d < a
      · rw [hbelow, memFrom, if_pos had]
        simp only [Bool.false_eq_true, or_false, iff_false]
        omega
      · rw [memFrom, if_neg had, memFrom, if_pos (Nat.lt_of_not_le hd)]
        simp only [Bool.not_false, iff_true]
        exact .inl (by omega)
  | case2 fs hne =>
    cases fs with
    | nil => simp [numbers, runs, memFrom]
    | cons a rest =>
      cases rest with
      | nil => exact absurd hb (not_bounded_singleton a)
      | cons b rest => exact absurd rfl (hne a b rest)

/-- **The numbers of the runs are ascending.** -/
theorem pairwise_numbers {fs : List Nat} (hp : fs.Pairwise (· < ·)) (hb : Bounded fs) :
    (numbers fs).Pairwise (· < ·) := by
  fun_induction runs fs with
  | case1 a b rest ih =>
    rw [List.pairwise_cons, List.pairwise_cons] at hp
    obtain ⟨ha, hbrest, hrest⟩ := hp
    have hab : a < b := ha b List.mem_cons_self
    have hbounded := hb.behind_run hab
    rw [numbers_cons_cons, List.pairwise_append]
    refine ⟨List.pairwise_lt_range', ih hrest hbounded, fun c hc d hd => ?_⟩
    rw [List.mem_range'_1] at hc
    have hd := (mem_numbers hrest hbounded d).mp hd
    refine Nat.lt_of_not_le fun hle => ?_
    have hbelow : memFrom false rest d = false := memFrom_of_lt fun f hf => by
      have hf := hbrest f hf
      omega
    rw [hbelow] at hd
    cases hd
  | case2 fs hne =>
    unfold numbers
    rw [runs]
    · exact List.Pairwise.nil
    · exact hne

end Flips

/-! ## Sets of documents -/

namespace DocSet

theorem flips_bounded (s : DocSet) : Flips.Bounded s.flips := ⟨s.span, s.bounded⟩

/-- **A set lists its members.** -/
theorem mem_toList {s : DocSet} {d : Nat} : d ∈ s.toList ↔ s.contains d = true :=
  Flips.mem_numbers s.ascending s.flips_bounded d

/-- A set lists its members in ascending order, each once. -/
theorem pairwise_toList (s : DocSet) : s.toList.Pairwise (· < ·) :=
  Flips.pairwise_numbers s.ascending s.flips_bounded

/-- **A set counts its members.** -/
theorem count_eq_length (s : DocSet) : s.count = s.toList.length := by
  have hsum : s.count = (s.runs.map fun r => r.2 - r.1).sum := by
    rw [List.sum_eq_foldl, List.foldl_map]
    rfl
  unfold toList
  rw [hsum, List.length_flatMap]
  simp only [List.length_range']

theorem lt_of_contains {s : DocSet} {d : Nat} (h : s.contains d = true) : d < s.span := by
  refine Nat.lt_of_not_le fun hle => ?_
  rw [contains_eq_false_of_span_le hle] at h
  cases h

theorem contains_of_isEmpty {s : DocSet} (h : s.isEmpty = true) (d : Nat) :
    s.contains d = false := by
  unfold isEmpty at h
  unfold contains
  rw [List.isEmpty_iff.mp h]
  rfl

theorem isEmpty_iff_count {s : DocSet} : s.isEmpty = true ↔ s.count = 0 := by
  rw [count_eq_length, List.length_eq_zero_iff]
  constructor
  · intro h
    refine List.eq_nil_iff_forall_not_mem.mpr fun d hd => ?_
    rw [mem_toList, contains_of_isEmpty h] at hd
    cases hd
  · intro h
    have he : s = empty s.span := ext rfl fun d => by
      rw [contains_empty, ← Bool.not_eq_true, ← mem_toList, h]
      exact List.not_mem_nil
    rw [he]
    rfl

/-- **Equality.** Sets are equal if they are of one span and have the same members. -/
theorem eq_iff_members {s t : DocSet} :
    s = t ↔ s.span = t.span ∧ ∀ d, d ∈ s.toList ↔ d ∈ t.toList := by
  constructor
  · rintro rfl
    exact ⟨rfl, fun d => Iff.rfl⟩
  · rintro ⟨hspan, hmem⟩
    refine ext hspan fun d => ?_
    rw [Bool.eq_iff_iff, ← mem_toList, ← mem_toList]
    exact hmem d

/-! ## Operations -/

theorem combine_of_ne {op : Bool → Bool → Bool} {h : op false false = false} {s t : DocSet}
    (hne : s.span ≠ t.span) : combine op h s t = .error (.spanMismatch s.span t.span) := dif_neg hne

/-- Two sets combine exactly if they are of one span. -/
theorem combine_eq_ok_iff {op : Bool → Bool → Bool} {h : op false false = false} {s t : DocSet} :
    (∃ r, combine op h s t = .ok r) ↔ s.span = t.span := by
  constructor
  · rintro ⟨r, hr⟩
    by_contra hne
    rw [combine_of_ne hne] at hr
    cases hr
  · intro e
    obtain ⟨r, hr, -⟩ := combine_spec (h := h) e
    exact ⟨r, hr⟩

theorem union_spec {s t : DocSet} (h : s.span = t.span) : ∃ r, s.union t = .ok r ∧
    r.span = s.span ∧ ∀ d, r.contains d = true ↔ s.contains d = true ∨ t.contains d = true := by
  obtain ⟨r, hr, hspan, hmem⟩ := @combine_spec (· || ·) rfl s t h
  exact ⟨r, hr, hspan, fun d => by rw [hmem d, Bool.or_eq_true]⟩

theorem intersect_spec {s t : DocSet} (h : s.span = t.span) : ∃ r, s.intersect t = .ok r ∧
    r.span = s.span ∧ ∀ d, r.contains d = true ↔ s.contains d = true ∧ t.contains d = true := by
  obtain ⟨r, hr, hspan, hmem⟩ := @combine_spec (· && ·) rfl s t h
  exact ⟨r, hr, hspan, fun d => by rw [hmem d, Bool.and_eq_true]⟩

theorem difference_spec {s t : DocSet} (h : s.span = t.span) : ∃ r, s.difference t = .ok r ∧
    r.span = s.span ∧ ∀ d, r.contains d = true ↔ s.contains d = true ∧ ¬ t.contains d = true := by
  obtain ⟨r, hr, hspan, hmem⟩ := @combine_spec (fun x y => x && !y) rfl s t h
  refine ⟨r, hr, hspan, ?_⟩
  intro d
  rw [hmem d, Bool.and_eq_true, Bool.not_eq_true', Bool.not_eq_true]

theorem mem_invert {s : DocSet} {d : Nat} :
    s.invert.contains d = true ↔ d < s.span ∧ ¬ s.contains d = true := by
  rw [contains_invert, Bool.and_eq_true, decide_eq_true_eq, Bool.not_eq_true', Bool.not_eq_true]

end DocSet

end UsageIndex
