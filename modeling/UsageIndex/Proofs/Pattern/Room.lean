import Mathlib.Algebra.Order.BigOperators.Group.List
import Mathlib.Algebra.Order.Group.Nat
import Mathlib.Algebra.Order.Ring.Nat
import Mathlib.Data.List.Perm.Subperm
import UsageIndex.Proofs.Pattern.Meaning

/-!
# How much room pieces of patterns take

The automaton of a pattern that is put together from pieces is no larger than those of its pieces
together. So a pattern keeps to the size that is allowed as long as its pieces do.

* **`forwardSize_le`**: states that are shared are counted once at most.
* **`size_concat_le`**: the size of forms one after the other.
* **`Weighs`**: a text is a pattern whose pieces take some room. It is put together with the text.
* **`keepsToSize_of_weighs`**: a pattern that is light enough is not too large.
-/

namespace UsageIndex.Pattern

/-! ## Sets -/

/-- **States that are shared** are counted once at most. -/
theorem forwardSize_le (bs : List Text.ByteBlock) : forwardSize bs ≤
    stateSize + ((switches 4 bs).map fun s => switchSize (heads s).length).sum := by
  have hnodup : (Std.HashSet.ofList (switches 4 bs)).toList.Nodup :=
    Std.HashSet.distinct_toList.imp fun h => by simpa using h
  have hsub : (Std.HashSet.ofList (switches 4 bs)).toList ⊆ switches 4 bs := by
    intro s hs
    rw [Std.HashSet.mem_toList, Std.HashSet.mem_ofList] at hs
    simpa using hs
  have hfold : ∀ l : List (List Text.ByteBlock),
      l.foldl (fun n s => n + switchSize (heads s).length) stateSize =
        stateSize + (l.map fun s => switchSize (heads s).length).sum :=
    fun l => List.foldl_map.symm.trans List.foldl_eq_apply_foldr
  unfold forwardSize
  rw [Std.HashSet.fold_eq_foldl_toList, hfold]
  obtain ⟨l, hperm, hl⟩ := hnodup.subperm hsub
  rw [← (hperm.map _).sum_nat]
  exact Nat.add_le_add_left ((hl.map _).sum_le_sum fun _ _ => Nat.zero_le _) _

/-- The blocks of the bytes of the characters of some runs. -/
def blocksOf (runs : List (Nat × Nat)) : List Text.ByteBlock :=
  runs.flatMap fun r => Text.encodedBlocks r.1 (r.2 - 1)

/-- A set with characters beyond ASCII, by the states of its automata. -/
theorem setSize_le (runs : List (Nat × Nat)) {k : Nat} (hwide : ¬ runs.all fun r => r.2 ≤ 0x80)
    (hforward : stateSize +
      ((switches 4 (blocksOf runs)).map fun s => switchSize (heads s).length).sum ≤ k)
    (hbackward : backwardSize (blocksOf runs) ≤ k) (d : Direction) : setSize d runs ≤ k := by
  unfold setSize
  rw [if_neg hwide]
  cases d with
  | forward => exact Nat.le_trans (forwardSize_le _) hforward
  | backward => exact hbackward

theorem runs_all : CharSet.all.runs = [(0, 0xd800), (0xe000, 0x110000)] := by decide +kernel

theorem runs_notDot :
    (notDot.toSet false).runs = [(0, 0x2e), (0x2f, 0xd800), (0xe000, 0x110000)] := by decide +kernel

/-- One character is a run of its own. -/
theorem runs_single (c : Char) : (CharSet.single c).runs = [(c.toNat, c.toNat + 1)] := by
  have hchar : c.toNat < 0xd800 ∨ 0xdfff < c.toNat ∧ c.toNat < 0x110000 := c.valid
  have hself : [c.toNat, c.toNat + 1].Pairwise (· < ·) := by simp
  have hscalar : scalarFlips.Pairwise (· < ·) := by decide
  have hflips : combineFlips and [c.toNat, c.toNat + 1] scalarFlips = [c.toNat, c.toNat + 1] := by
    refine Flips.flips_ext (i := false) (Flips.pairwise_combine hself hscalar) hself fun d => ?_
    refine (Flips.memFrom_combine and false false hself hscalar d).trans ?_
    simp only [Flips.memFrom, scalarFlips]
    split_ifs <;> first | rfl | omega
  unfold CharSet.runs CharSet.single CharSet.flips
  rw [if_pos (Char.le_refl c), hflips]
  rfl

/-! ## Forms -/

namespace Form

variable {d : Direction}

theorem sizeSum_append (fs gs : List Form) :
    sizeSum d (fs ++ gs) = sizeSum d fs + sizeSum d gs := by
  induction fs with
  | nil => simp [sizeSum]
  | cons f fs ih => simp only [List.cons_append, sizeSum, ih, Nat.add_assoc]

theorem sizeSum_parts_le (f : Form) : sizeSum d f.parts ≤ f.size d := by
  unfold parts
  split
  · exact Nat.zero_le _
  · rw [size]
  · simp only [sizeSum]
    exact Nat.le_refl _

theorem sizeSum_flatMap_parts_le (fs : List Form) :
    sizeSum d (fs.flatMap parts) ≤ sizeSum d fs := by
  induction fs with
  | nil => exact Nat.le_refl _
  | cons f fs ih =>
    rw [List.flatMap_cons, sizeSum_append, sizeSum]
    exact Nat.add_le_add (sizeSum_parts_le f) ih

/-- Texts that become one take the room of both. -/
theorem sizeSum_consPart (f : Form) (fs : List Form) :
    sizeSum d (consPart f fs) = f.size d + sizeSum d fs := by
  unfold consPart
  split
  · rename_i cs ds fs
    have hbytes : (bytesOf d (cs ++ ds)).length =
        (bytesOf d cs).length + (bytesOf d ds).length := by
      cases d with
      | forward => simp [bytesOf]
      | backward => simp [bytesOf, Nat.add_comm]
    simp only [sizeSum, size, hbytes, Nat.mul_add, Nat.add_assoc]
  · simp only [sizeSum]

theorem sizeSum_foldr_consPart (fs : List Form) :
    sizeSum d (fs.foldr consPart []) = sizeSum d fs := by
  induction fs with
  | nil => rfl
  | cons f fs ih => rw [List.foldr_cons, sizeSum_consPart, ih, sizeSum]

/-- **Forms one after the other** take no more room than each of them. -/
theorem size_concat_le (fs : List Form) : (concat fs).size d ≤ sizeSum d fs + stateSize := by
  have hsum : sizeSum d ((fs.flatMap parts).foldr consPart []) ≤ sizeSum d fs := by
    rw [sizeSum_foldr_consPart]
    exact sizeSum_flatMap_parts_le fs
  unfold concat
  split
  · simp only [size]
    omega
  · rename_i f hf
    rw [hf] at hsum
    simp only [sizeSum] at hsum
    omega
  · rw [size]
    omega

end Form

/-! ## Texts -/

/-- The room that parts take, those of one list together. -/
def partsSize (d : Direction) (parts : List Tree) : Nat := Form.sizeSum d (Form.ofTrees parts)

theorem partsSize_append (d : Direction) (ps qs : List Tree) :
    partsSize d (ps ++ qs) = partsSize d ps + partsSize d qs := by
  have h : Form.ofTrees (ps ++ qs) = Form.ofTrees ps ++ Form.ofTrees qs := by
    induction ps with
    | nil => rfl
    | cons p ps ih => simp only [List.cons_append, Form.ofTrees, ih]
  unfold partsSize
  rw [h, Form.sizeSum_append]

/-- A text is a pattern whose parts take the room `k` at most. -/
def Weighs (cs : List Char) (k : Nat) : Prop :=
  ∃ parts, Writes cs parts ∧ ∀ d, partsSize d parts ≤ k

namespace Weighs

variable {cs ds : List Char} {k l : Nat}

theorem mono (h : Weighs cs k) (hkl : k ≤ l) : Weighs cs l := by
  obtain ⟨parts, hw, hsize⟩ := h
  exact ⟨parts, hw, fun d => Nat.le_trans (hsize d) hkl⟩

theorem nil : Weighs [] 0 := ⟨[], .nil, fun _ => Nat.le_refl _⟩

theorem append (h : Weighs cs k) (h' : Weighs ds l) : Weighs (cs ++ ds) (k + l) := by
  obtain ⟨ps, hw, hps⟩ := h
  obtain ⟨qs, hw', hqs⟩ := h'
  refine ⟨ps ++ qs, hw.append hw', ?_⟩
  intro d
  rw [partsSize_append]
  exact Nat.add_le_add (hps d) (hqs d)

theorem flatMap {α : Type} {f : α → List Char} (h : ∀ a, Weighs (f a) k) (l : List α) :
    Weighs (l.flatMap f) (k * l.length) := by
  induction l with
  | nil => exact nil
  | cons a l ih =>
    rw [List.flatMap_cons, List.length_cons, Nat.mul_succ, Nat.add_comm]
    exact (h a).append ih

/-- A single part. -/
theorem single {t : Tree} (hw : Writes cs [t]) (h : ∀ d, (Form.ofTree t).size d ≤ k) :
    Weighs cs k := ⟨[t], hw, fun d => by simpa [partsSize, Form.ofTrees, Form.sizeSum] using h d⟩

theorem escapeChar (c : Char) : Weighs (Pattern.escapeChar c) 128 := by
  refine single (writes_escapeChar c) fun d => ?_
  have hform : Form.ofTree (.one (.single c) 0) = .literal [Char.ofNat c.toNat] := by
    rw [Form.ofTree, runs_single]
    exact if_pos rfl
  have hbytes : (bytesOf d [Char.ofNat c.toNat]).length ≤ 4 := by
    cases d <;> simp [bytesOf, Char.utf8Size_le_four]
  rw [hform, Form.size]
  exact Nat.mul_le_mul_left stateSize hbytes

theorem dot : Weighs ['.'] 1024 := by
  refine single writes_dot fun d => ?_
  rw [Form.ofTree, runs_all]
  exact setSize_le _ (by decide) (by decide) (by decide) d

theorem dotStar : Weighs ['.', '*'] 1200 := by
  refine single writes_dotStar fun d => ?_
  have hset := setSize_le [(0, 0xd800), (0xe000, 0x110000)] (k := 1024)
    (by decide) (by decide) (by decide) d
  have hform : Form.ofTree (.rep (.one .all 0) 0 none) =
      .rep (.set [(0, 0xd800), (0xe000, 0x110000)]) 0 none := by
    rw [Form.ofTree, Form.ofTree, runs_all]
    rfl
  have hfork : forkSize 2 = 40 := rfl
  have hconsumes :
      ((Form.set [(0, 0xd800), (0xe000, 0x110000)]).consumes? == some true) = true := rfl
  rw [hform, Form.size, Form.size, repeatedSize, if_pos hconsumes]
  omega

theorem notDotPlus : Weighs ['[', '^', '\\', '.', ']', '+'] 1100 := by
  refine single writes_notDotPlus fun d => ?_
  have hset := setSize_le [(0, 0x2e), (0x2f, 0xd800), (0xe000, 0x110000)] (k := 1024)
    (by decide) (by decide) (by decide) d
  have hform : Form.ofTree (.rep (.one (notDot.toSet false) 1) 1 none) =
      .rep (.set [(0, 0x2e), (0x2f, 0xd800), (0xe000, 0x110000)]) 1 none := by
    rw [Form.ofTree, Form.ofTree, runs_notDot]
    rfl
  have hfork : forkSize 2 = 40 := rfl
  rw [hform, Form.size, Form.size, repeatedSize]
  omega

end Weighs

/-! ## Whole patterns -/

theorem leadSize_le (d : Direction) (f : Form) : leadSize d f ≤ 112 := by
  unfold leadSize
  dsimp only
  split_ifs
  · decide
  · decide

/-- **A pattern that is light enough** keeps to the size that is allowed. -/
theorem keepsToSize_of_weighs {cs : List Char} {k : Nat} (h : Weighs cs k)
    (hk : k + 400 ≤ maxSize) : KeepsToSize cs := by
  obtain ⟨parts, hw, hsize⟩ := h
  have hbound : ∀ d, automatonSize d (.ofTree (anchoredTree parts)) ≤ k + 400 := by
    intro d
    have hbody : (Form.ofTree (.ofParts parts)).size d ≤ partsSize d parts + stateSize := by
      unfold Tree.ofParts
      split
      · exact Nat.le_add_left _ _
      · simp only [partsSize, Form.ofTrees, Form.sizeSum]
        omega
      · exact Form.size_concat_le _
    have hwhole : (Form.ofTree (anchoredTree parts)).size d ≤ _ :=
      Form.size_concat_le (d := d) (Form.ofTrees
        [.edge .textStart, .group false (.ofParts parts), .edge .textEnd])
    have hlead := leadSize_le d (.ofTree (anchoredTree parts))
    have hparts := hsize d
    simp only [Form.ofTrees, Form.ofTree, Form.sizeSum, Form.size, if_neg Bool.false_ne_true]
      at hwhole
    have hcapture : (Form.capture (.ofTree (anchoredTree parts))).size d ≤
        (Form.ofTree (anchoredTree parts)).size d + 2 * stateSize := by
      rw [Form.size]
      split_ifs
      · exact Nat.le_refl _
      · exact Nat.le_add_right _ _
    have hstate : stateSize = 32 := rfl
    unfold automatonSize
    omega
  intro t ht
  rw [parse_anchored hw] at ht
  cases ht
  exact ⟨Nat.le_trans (hbound .forward) hk, Nat.le_trans (hbound .backward) hk⟩

end UsageIndex.Pattern
