import Mathlib.Data.List.SplitBy
import UsageIndex.Pattern.Runs

/-!
# Sets up to case

What is equal up to case is told from the simple case folding of characters, and both what a set
contains and how it is written out follow it.

* **`Text.mem_variants_iff`**: the caseless equals of a character are those with the same folding.
* **`Pattern.CharSet.contains_caseless`**: what a set contains up to case.
* **`Pattern.memFrom_caselessFlips`**: the code points at which membership of a set up to case
  changes.
-/

namespace UsageIndex

/-! ## Characters -/

namespace Text

/-- No run of the simple case folding leaves the code points of characters. -/
theorem foldRuns_valid : ∀ r ∈ foldRuns, 0 ≤ (r.1 : Int) + r.2.2.2 ∧
    ((r.2.1 : Int) + r.2.2.2 < 0xd800 ∨
      0xdfff < (r.1 : Int) + r.2.2.2 ∧ (r.2.1 : Int) + r.2.2.2 < 0x110000) := by
  decide +kernel

/-- A character that a run moves is found again from where it is moved to. -/
theorem mem_sources_fold {r : Nat × Nat × Nat × Int} {d : Char} (hr : r ∈ foldRuns)
    (hcovers : CaseRun.covers ⟨r.1, r.2.1, r.2.2.1, r.2.2.2⟩ d.toNat = true) :
    d ∈ CaseRun.sources ⟨r.1, r.2.1, r.2.2.1, r.2.2.2⟩
      (Char.ofNat ((d.toNat : Int) + r.2.2.2).toNat).toNat := by
  obtain ⟨hlow, hrange⟩ := foldRuns_valid r hr
  have hbounds : r.1 ≤ d.toNat ∧ d.toNat ≤ r.2.1 := by
    unfold CaseRun.covers at hcovers
    simp only [Bool.and_eq_true, decide_eq_true_eq] at hcovers
    exact hcovers.1
  have hvalid : ((d.toNat : Int) + r.2.2.2).toNat.isValidChar := by
    unfold Nat.isValidChar
    omega
  have hsource : ((((d.toNat : Int) + r.2.2.2).toNat : Int) - r.2.2.2).toNat = d.toNat := by omega
  have htoNat : (Char.ofNat ((d.toNat : Int) + r.2.2.2).toNat).toNat =
      ((d.toNat : Int) + r.2.2.2).toNat := by
    unfold Char.ofNat
    rw [dif_pos hvalid]
    rfl
  unfold CaseRun.sources
  simp only [htoNat, hsource, if_pos hcovers, Char.ofNat_toNat, List.mem_singleton]

/-- **Caseless equals** are the characters with one simple case folding. -/
theorem mem_variants_iff {c d : Char} : d ∈ variants c ↔ fold d = fold c := by
  unfold variants
  simp only [List.mem_filter, beq_iff_eq]
  refine ⟨And.right, fun h => ⟨?_, h⟩⟩
  rw [← h, List.mem_cons, List.mem_cons, List.mem_flatMap]
  refine .inr ?_
  unfold fold mapByRuns
  split
  · rename_i r hfind
    have hr := List.mem_of_find?_eq_some hfind
    rw [List.find?_eq_some_iff_append] at hfind
    exact .inr ⟨r, hr, mem_sources_fold hr hfind.1⟩
  · exact .inl (Char.ofNat_toNat d).symm

end Text

namespace Pattern

/-- **Up to case** a set contains the characters that have the simple case folding of one of its
characters. -/
theorem CharSet.contains_caseless {s : CharSet} {c : Char} :
    (caseless s).contains c = true ↔ ∃ d, Text.fold d = Text.fold c ∧ s.contains d = true := by
  have hcontains : (caseless s).contains c = (Text.variants c).any s.contains := rfl
  rw [hcontains, List.any_eq_true]
  simp only [Text.mem_variants_iff]

/-! ## Orbits -/

/-- The pairs that are put together make a set of one code point and of what is folded to it. -/
theorem mem_orbits_iff {o : List Nat} : o ∈ orbits ↔
    ∃ ps ∈ (foldPairs.mergeSort fun p q => p.2 ≤ q.2).splitBy (fun p q => p.2 == q.2),
      (ps.map (·.2)).take 1 ++ ps.map (·.1) = o := by
  unfold orbits
  exact List.mem_map

/-- Pairs that stand side by side have one code point that they are folded to. -/
theorem snd_eq_of_isChain {p : Nat × Nat} {ps : List (Nat × Nat)}
    (h : (p :: ps).IsChain fun p q => p.2 == q.2) {q : Nat × Nat} (hq : q ∈ p :: ps) :
    q.2 = p.2 := by
  induction ps generalizing p with
  | nil => rw [List.mem_singleton.mp hq]
  | cons r ps ih =>
    obtain ⟨hr, hps⟩ := List.isChain_cons_cons.mp h
    rcases List.mem_cons.mp hq with rfl | hq
    · rfl
    · exact (ih hps hq).trans (beq_iff_eq.mp hr).symm

theorem exists_fold_of_mem_orbits {o : List Nat} (h : o ∈ orbits) :
    ∃ k, ∀ n ∈ o, n = k ∨ (n, k) ∈ foldPairs := by
  obtain ⟨ps, hps, rfl⟩ := mem_orbits_iff.mp h
  have hfold : ∀ p ∈ ps, p ∈ foldPairs := by
    intro p hp
    have hflat := List.mem_flatten_of_mem hps hp
    rw [List.flatten_splitBy] at hflat
    exact List.mem_mergeSort.mp hflat
  have hchain := List.isChain_of_mem_splitBy hps
  cases ps with
  | nil => exact ⟨0, fun n hn => absurd hn List.not_mem_nil⟩
  | cons p ps =>
    refine ⟨p.2, fun n hn => ?_⟩
    rw [List.map_cons, List.take_succ_cons, List.take_zero, List.singleton_append,
      List.mem_cons] at hn
    refine hn.imp_right fun hn => ?_
    obtain ⟨q, hq, rfl⟩ := List.mem_map.mp hn
    rw [← snd_eq_of_isChain hchain hq]
    exact hfold q hq

theorem exists_orbit {n k : Nat} (h : (n, k) ∈ foldPairs) : ∃ o ∈ orbits, n ∈ o ∧ k ∈ o := by
  have hflat : (n, k) ∈ ((foldPairs.mergeSort fun p q => p.2 ≤ q.2).splitBy
      fun p q => p.2 == q.2).flatten := by
    rw [List.flatten_splitBy]
    exact List.mem_mergeSort.mpr h
  obtain ⟨ps, hps, hmem⟩ := List.mem_flatten.mp hflat
  have hchain := List.isChain_of_mem_splitBy hps
  refine ⟨_, mem_orbits_iff.mpr ⟨ps, hps, rfl⟩, ?_, ?_⟩
  · exact List.mem_append_right _ (List.mem_map_of_mem hmem)
  · cases ps with
    | nil => cases hmem
    | cons p ps =>
      have hk : k = p.2 := snd_eq_of_isChain hchain hmem
      rw [hk]
      exact List.mem_append_left _ List.mem_cons_self

theorem pairwise_caseMates : caseMates.Pairwise fun p q => q.1 ≤ p.1 := by
  unfold caseMates
  refine (List.pairwise_mergeSort (fun p q r hpq hqr => ?_) (fun p q => ?_) _).imp of_decide_eq_true
  · exact decide_eq_true (Nat.le_trans (of_decide_eq_true hqr) (of_decide_eq_true hpq))
  · rw [Bool.or_eq_true, decide_eq_true_eq, decide_eq_true_eq]
    exact Nat.le_total q.1 p.1

theorem mem_caseMates {n : Nat} {o : List Nat} : (n, o) ∈ caseMates ↔ o ∈ orbits ∧ n ∈ o := by
  unfold caseMates
  rw [List.mem_mergeSort, List.mem_flatMap]
  constructor
  · rintro ⟨o', ho', hn⟩
    obtain ⟨m, hm, heq⟩ := List.mem_map.mp hn
    cases heq
    exact ⟨ho', hm⟩
  · rintro ⟨ho, hn⟩
    exact ⟨o, ho, List.mem_map_of_mem hn⟩

/-- The code points that are equal up to case to a member of a set, in descending order. -/
theorem pairwise_mates (x : List Nat) :
    ((caseMates.filter fun p => p.2.any (Flips.memFrom false x)).map (·.1)).Pairwise (· ≥ ·) :=
  List.pairwise_map.mpr (pairwise_caseMates.filter _)

section

variable {x : List Nat} (hx : x.Pairwise (· < ·))
include hx

theorem pairwise_caselessFlips : (caselessFlips x).Pairwise (· < ·) :=
  Flips.pairwise_combine hx (Flips.pairwise_ofDescending (pairwise_mates x))

/-- **The flips of a set up to case.** What is equal up to case to a member is added. -/
theorem memFrom_caselessFlips (n : Nat) :
    Flips.memFrom false (caselessFlips x) n = true ↔ Flips.memFrom false x n = true ∨
      ∃ o ∈ orbits, n ∈ o ∧ ∃ m ∈ o, Flips.memFrom false x m = true := by
  have hmates := pairwise_mates x
  have hcombine := Flips.memFrom_combine or false false hx (Flips.pairwise_ofDescending hmates) n
  rw [Bool.or_self] at hcombine
  unfold caselessFlips combineFlips
  simp only
  rw [hcombine, Flips.memFrom_ofDescending hmates, Bool.or_eq_true, decide_eq_true_eq,
    List.mem_map]
  simp only [List.mem_filter, List.any_eq_true]
  refine or_congr_right ⟨?_, ?_⟩
  · rintro ⟨⟨n, o⟩, ⟨ho, hm⟩, rfl⟩
    obtain ⟨ho, hn⟩ := mem_caseMates.mp ho
    exact ⟨o, ho, hn, hm⟩
  · rintro ⟨o, ho, hn, hm⟩
    exact ⟨(n, o), ⟨mem_caseMates.mpr ⟨ho, hn⟩, hm⟩, rfl⟩

end

/-- The letter up to case is written out as two characters. -/
theorem flips_caseless_a :
    (CharSet.caseless (.single 'a')).flips = [65, 66, 97, 98] := by
  have hx : [97, 98].Pairwise (· < ·) := by decide
  have hflips : (CharSet.caseless (.single 'a')).flips = caselessFlips [97, 98] := rfl
  have hmem : ∀ m, Flips.memFrom false [97, 98] m = true ↔ m = 97 := by
    intro m
    simp only [Flips.memFrom]
    grind
  have hmem' : ∀ m, Flips.memFrom false [65, 66, 97, 98] m = true ↔ m = 65 ∨ m = 97 := by
    intro m
    simp only [Flips.memFrom]
    grind
  -- only the capital letter is folded to the letter, which is itself folded to none
  have hpairs : ∀ p ∈ foldPairs, (p.2 = 97 → p.1 = 65) ∧ p.1 ≠ 97 := by decide +kernel
  have hpair : (65, 97) ∈ foldPairs := by decide +kernel
  rw [hflips]
  refine Flips.flips_ext (i := false) (pairwise_caselessFlips hx) (by decide) fun n => ?_
  rw [Bool.eq_iff_iff, memFrom_caselessFlips hx]
  simp only [hmem, hmem', exists_eq_right]
  constructor
  · rintro (rfl | ⟨o, ho, hn, ha⟩)
    · exact .inr rfl
    · obtain ⟨k, hk⟩ := exists_fold_of_mem_orbits ho
      have hka : k = 97 := (hk 97 ha).elim Eq.symm fun h => absurd rfl (hpairs _ h).2
      rw [hka] at hk
      exact (hk n hn).symm.imp_left fun h => (hpairs _ h).1 rfl
  · rintro (rfl | rfl)
    · obtain ⟨o, ho, hn, ha⟩ := exists_orbit hpair
      exact .inr ⟨o, ho, hn, ha⟩
    · exact .inl rfl

theorem runs_caseless_a : (CharSet.caseless (.single 'a')).runs = [(65, 66), (97, 98)] := by
  unfold CharSet.runs
  rw [flips_caseless_a]
  decide +kernel

end Pattern

end UsageIndex
