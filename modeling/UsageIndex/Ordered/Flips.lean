/-!
# Flips

A set of numbers that is eventually constant, given by the ascending list of the numbers at which
membership changes. Counting up from zero, membership starts at a given value and flips at each
number of the list.

* **`memFrom_combine`**: `combine` computes any Boolean combination of two sets in one pass.
* **`flips_ext`**: ascending lists that say the same of every number are equal, so that the list of
  a set is unique.
* **`memFrom_ofDescending`**: the list built from the members, given in descending order.
-/

namespace UsageIndex.Flips

/-- Membership of `d`, where membership is `inside` before the first flip. -/
def memFrom (inside : Bool) : List Nat → Nat → Bool
  | [], _ => inside
  | f :: fs, d => if d < f then inside else memFrom (!inside) fs d

/-- Puts a flip at `place` in front, if membership changes there from `before` to `after`. -/
def emit (before after : Bool) (place : Nat) (fs : List Nat) : List Nat :=
  if before == after then fs else place :: fs

/-- The flips of a Boolean combination of two sets, where membership in the two is `x` and `y`
before the first flip of each. -/
def combine (op : Bool → Bool → Bool) : Bool → Bool → List Nat → List Nat → List Nat
  | _, _, [], [] => []
  | x, y, a :: as, [] => emit (op x y) (op (!x) y) a (combine op (!x) y as [])
  | x, y, [], b :: bs => emit (op x y) (op x (!y)) b (combine op x (!y) [] bs)
  | x, y, a :: as, b :: bs =>
    if a < b then emit (op x y) (op (!x) y) a (combine op (!x) y as (b :: bs))
    else if b < a then emit (op x y) (op x (!y)) b (combine op x (!y) (a :: as) bs)
    else emit (op x y) (op (!x) (!y)) a (combine op (!x) (!y) as bs)
termination_by _ _ as bs => as.length + bs.length

/-- Adds `d` to a set all of whose members are at or above `d`. -/
def addBelow (d : Nat) : List Nat → List Nat
  | [] => [d, d + 1]
  | f :: fs => if f = d then f :: fs else if f = d + 1 then d :: fs else d :: (d + 1) :: f :: fs

/-- The flips of a finite set whose members are given in descending order, repeats allowed. -/
def ofDescending (ds : List Nat) : List Nat := ds.foldl (fun fs d => addBelow d fs) []

/-- The maximal runs of members, each as its first member and the number after its last. -/
def runs : List Nat → List (Nat × Nat)
  | a :: b :: rest => (a, b) :: runs rest
  | _ => []

/-! ## Membership -/

theorem memFrom_of_lt {i : Bool} {fs : List Nat} {d : Nat} (h : ∀ f ∈ fs, d < f) :
    memFrom i fs d = i := by
  cases fs with
  | nil => rfl
  | cons f fs => unfold memFrom; rw [if_pos (h f List.mem_cons_self)]

theorem memFrom_emit {b a : Bool} {p : Nat} {fs : List Nat} (h : ∀ f ∈ fs, p < f) (d : Nat) :
    memFrom b (emit b a p fs) d = if d < p then b else memFrom a fs d := by
  unfold emit
  split
  · rename_i e
    have e : b = a := by simpa using e
    subst e
    split
    · rename_i hd
      exact memFrom_of_lt fun f hf => Nat.lt_trans hd (h f hf)
    · rfl
  · rename_i e
    have e : (!b) = a := by
      cases b <;> cases a <;> simp_all
    rw [← e]
    rfl

theorem mem_emit {b a : Bool} {p f : Nat} {fs : List Nat} (h : f ∈ emit b a p fs) :
    f = p ∨ f ∈ fs := by
  unfold emit at h
  split at h
  · exact Or.inr h
  · exact List.mem_cons.mp h

theorem pairwise_emit {b a : Bool} {p : Nat} {fs : List Nat} (h : ∀ f ∈ fs, p < f)
    (hp : fs.Pairwise (· < ·)) : (emit b a p fs).Pairwise (· < ·) := by
  unfold emit
  split
  · exact hp
  · exact List.pairwise_cons.mpr ⟨h, hp⟩

/-! ## Combinations -/

variable {op : Bool → Bool → Bool}

/-- A combination flips only where one of the two sets does. -/
theorem mem_combine {x y : Bool} {as bs : List Nat} {f : Nat} (h : f ∈ combine op x y as bs) :
    f ∈ as ∨ f ∈ bs := by
  fun_induction combine op x y as bs with
  | case1 => cases h
  | case2 x y a as ih =>
    rcases mem_emit h with rfl | h
    · exact Or.inl List.mem_cons_self
    · exact (ih h).imp (List.mem_cons_of_mem _) id
  | case3 x y b bs ih =>
    rcases mem_emit h with rfl | h
    · exact Or.inr List.mem_cons_self
    · exact (ih h).imp id (List.mem_cons_of_mem _)
  | case4 x y a as b bs hab ih =>
    rcases mem_emit h with rfl | h
    · exact Or.inl List.mem_cons_self
    · exact (ih h).imp (List.mem_cons_of_mem _) id
  | case5 x y a as b bs hab hba ih =>
    rcases mem_emit h with rfl | h
    · exact Or.inr List.mem_cons_self
    · exact (ih h).imp id (List.mem_cons_of_mem _)
  | case6 x y a as b bs hab hba ih =>
    rcases mem_emit h with rfl | h
    · exact Or.inl List.mem_cons_self
    · exact (ih h).imp (List.mem_cons_of_mem _) (List.mem_cons_of_mem _)

/-- What both sets flip above, their combination flips above. -/
theorem lt_combine {x y : Bool} {as bs : List Nat} {p : Nat} (ha : ∀ f ∈ as, p < f)
    (hb : ∀ f ∈ bs, p < f) : ∀ f ∈ combine op x y as bs, p < f :=
  fun f hf => (mem_combine hf).elim (ha f) (hb f)

theorem pairwise_combine {x y : Bool} {as bs : List Nat} (ha : as.Pairwise (· < ·))
    (hb : bs.Pairwise (· < ·)) : (combine op x y as bs).Pairwise (· < ·) := by
  fun_induction combine op x y as bs with
  | case1 => exact List.Pairwise.nil
  | case2 x y a as ih =>
    rw [List.pairwise_cons] at ha
    exact pairwise_emit (lt_combine ha.1 (by simp)) (ih ha.2 hb)
  | case3 x y b bs ih =>
    rw [List.pairwise_cons] at hb
    exact pairwise_emit (lt_combine (by simp) hb.1) (ih ha hb.2)
  | case4 x y a as b bs hab ih =>
    have hb' := List.pairwise_cons.mp hb
    rw [List.pairwise_cons] at ha
    refine pairwise_emit (lt_combine ha.1 fun f hf => ?_) (ih ha.2 hb)
    rcases List.mem_cons.mp hf with rfl | hf
    · exact hab
    · exact Nat.lt_trans hab (hb'.1 f hf)
  | case5 x y a as b bs hab hba ih =>
    have ha' := List.pairwise_cons.mp ha
    rw [List.pairwise_cons] at hb
    refine pairwise_emit (lt_combine (fun f hf => ?_) hb.1) (ih ha hb.2)
    rcases List.mem_cons.mp hf with rfl | hf
    · exact hba
    · exact Nat.lt_trans hba (ha'.1 f hf)
  | case6 x y a as b bs hab hba ih =>
    rw [List.pairwise_cons] at ha hb
    have e : a = b := by omega
    exact pairwise_emit (lt_combine ha.1 (e ▸ hb.1)) (ih ha.2 hb.2)

/-- **Combination.** `combine` decides membership by the operation on the two memberships. -/
theorem memFrom_combine (op : Bool → Bool → Bool) (x y : Bool) {as bs : List Nat}
    (ha : as.Pairwise (· < ·)) (hb : bs.Pairwise (· < ·)) (d : Nat) :
    memFrom (op x y) (combine op x y as bs) d = op (memFrom x as d) (memFrom y bs d) := by
  fun_induction combine op x y as bs with
  | case1 => rfl
  | case2 x y a as ih =>
    rw [List.pairwise_cons] at ha
    rw [memFrom_emit (lt_combine ha.1 (by simp)), ih ha.2 hb]
    simp only [memFrom]
    split <;> rfl
  | case3 x y b bs ih =>
    rw [List.pairwise_cons] at hb
    rw [memFrom_emit (lt_combine (by simp) hb.1), ih ha hb.2]
    simp only [memFrom]
    split <;> rfl
  | case4 x y a as b bs hab ih =>
    have hb' := List.pairwise_cons.mp hb
    rw [List.pairwise_cons] at ha
    have hlt : ∀ f ∈ b :: bs, a < f := by
      intro f hf
      rcases List.mem_cons.mp hf with rfl | hf
      · exact hab
      · exact Nat.lt_trans hab (hb'.1 f hf)
    rw [memFrom_emit (lt_combine ha.1 hlt), ih ha.2 hb]
    by_cases hd : d < a
    · rw [if_pos hd, memFrom, if_pos hd, memFrom_of_lt fun f hf => Nat.lt_trans hd (hlt f hf)]
    · rw [if_neg hd, memFrom.eq_2 x, if_neg hd]
  | case5 x y a as b bs hab hba ih =>
    have ha' := List.pairwise_cons.mp ha
    rw [List.pairwise_cons] at hb
    have hlt : ∀ f ∈ a :: as, b < f := by
      intro f hf
      rcases List.mem_cons.mp hf with rfl | hf
      · exact hba
      · exact Nat.lt_trans hba (ha'.1 f hf)
    rw [memFrom_emit (lt_combine hlt hb.1), ih ha hb.2]
    by_cases hd : d < b
    · rw [if_pos hd, memFrom_of_lt fun f hf => Nat.lt_trans hd (hlt f hf), memFrom.eq_2 y,
        if_pos hd]
    · rw [if_neg hd, memFrom.eq_2 y, if_neg hd]
  | case6 x y a as b bs hab hba ih =>
    rw [List.pairwise_cons] at ha hb
    have e : a = b := by omega
    subst e
    rw [memFrom_emit (lt_combine ha.1 hb.1), ih ha.2 hb.2]
    simp only [memFrom]
    split <;> rfl

/-! ## Uniqueness -/

/-- **Uniqueness.** Ascending lists that say the same of every number are equal. -/
theorem flips_ext {i : Bool} {as bs : List Nat} (ha : as.Pairwise (· < ·))
    (hb : bs.Pairwise (· < ·)) (h : ∀ d, memFrom i as d = memFrom i bs d) : as = bs := by
  induction as generalizing i bs with
  | nil =>
    cases bs with
    | nil => rfl
    | cons b bs =>
      rw [List.pairwise_cons] at hb
      have := h b
      rw [memFrom.eq_2, if_neg (Nat.lt_irrefl b), memFrom_of_lt hb.1] at this
      simp [memFrom] at this
  | cons a as ih =>
    rw [List.pairwise_cons] at ha
    cases bs with
    | nil =>
      have := h a
      rw [memFrom.eq_2, if_neg (Nat.lt_irrefl a), memFrom_of_lt ha.1] at this
      simp [memFrom] at this
    | cons b bs =>
      rw [List.pairwise_cons] at hb
      have e : a = b := by
        rcases Nat.lt_trichotomy a b with hlt | e | hlt
        · have := h a
          rw [memFrom.eq_2, if_neg (Nat.lt_irrefl a), memFrom_of_lt ha.1, memFrom.eq_2,
            if_pos hlt] at this
          simp at this
        · exact e
        · have := h b
          rw [memFrom.eq_2, if_pos hlt, memFrom.eq_2, if_neg (Nat.lt_irrefl b),
            memFrom_of_lt hb.1] at this
          simp at this
      subst e
      rw [ih (i := !i) ha.2 hb.2 fun d => ?_]
      by_cases hd : d < a
      · rw [memFrom_of_lt fun f hf => Nat.lt_trans hd (ha.1 f hf),
          memFrom_of_lt fun f hf => Nat.lt_trans hd (hb.1 f hf)]
      · have := h d
        rwa [memFrom.eq_2, if_neg hd, memFrom.eq_2, if_neg hd] at this

/-! ## Sets from their members -/

theorem le_of_mem_addBelow {d g : Nat} {fs : List Nat} (hd : ∀ f ∈ fs, d ≤ f)
    (hg : g ∈ addBelow d fs) : d ≤ g := by
  unfold addBelow at hg
  split at hg
  · simp only [List.mem_cons, List.not_mem_nil, or_false] at hg
    omega
  · rename_i f fs
    split at hg
    · exact hd g hg
    · split at hg
      · rcases List.mem_cons.mp hg with rfl | hg
        · exact Nat.le_refl _
        · exact hd g (List.mem_cons_of_mem _ hg)
      · rcases List.mem_cons.mp hg with rfl | hg
        · exact Nat.le_refl _
        · rcases List.mem_cons.mp hg with rfl | hg
          · exact Nat.le_succ d
          · exact hd g hg

theorem pairwise_addBelow {d : Nat} {fs : List Nat} (hp : fs.Pairwise (· < ·))
    (hd : ∀ f ∈ fs, d ≤ f) : (addBelow d fs).Pairwise (· < ·) := by
  cases fs with
  | nil => simp [addBelow]
  | cons f fs =>
    have hf := hd f List.mem_cons_self
    obtain ⟨hfs, hp'⟩ := List.pairwise_cons.mp hp
    rw [addBelow.eq_2]
    by_cases he : f = d
    · rw [if_pos he]
      exact hp
    · rw [if_neg he]
      by_cases he' : f = d + 1
      · rw [if_pos he']
        refine List.pairwise_cons.mpr ⟨fun g hg => ?_, hp'⟩
        have := hfs g hg
        omega
      · rw [if_neg he']
        have hlt : ∀ g ∈ f :: fs, d + 1 < g := by
          intro g hg
          rcases List.mem_cons.mp hg with rfl | hg
          · omega
          · have := hfs g hg
            omega
        refine List.pairwise_cons.mpr ⟨fun g hg => ?_, List.pairwise_cons.mpr ⟨hlt, hp⟩⟩
        rcases List.mem_cons.mp hg with rfl | hg
        · exact Nat.lt_succ_self d
        · exact Nat.lt_of_succ_lt (hlt g hg)

/-- A run of one member in front of flips that are not below it. -/
theorem memFrom_single (d x : Nat) (fs : List Nat) (hd : ∀ f ∈ fs, d + 1 < f) :
    memFrom false (d :: (d + 1) :: fs) x = (decide (x = d) || memFrom false fs x) := by
  rw [memFrom.eq_2, memFrom.eq_2]
  by_cases hx : x ≤ d
  · have hfs : ∀ i, memFrom i fs x = i := fun i =>
      memFrom_of_lt fun f hf => Nat.lt_trans (Nat.lt_succ_of_le hx) (hd f hf)
    simp only [hfs]
    by_cases he : x = d
    · simp [he]
    · have hlt : x < d := by omega
      simp [hlt, he]
  · have h₁ : ¬ x < d := by omega
    have h₂ : ¬ x < d + 1 := by omega
    have h₃ : x ≠ d := by omega
    simp [h₁, h₂, h₃]

theorem memFrom_addBelow {d : Nat} {fs : List Nat} (hp : fs.Pairwise (· < ·))
    (hd : ∀ f ∈ fs, d ≤ f) (x : Nat) :
    memFrom false (addBelow d fs) x = (decide (x = d) || memFrom false fs x) := by
  cases fs with
  | nil => exact memFrom_single d x [] (by simp)
  | cons f fs =>
    have hf := hd f List.mem_cons_self
    have hfs := (List.pairwise_cons.mp hp).1
    rw [addBelow.eq_2]
    by_cases he : f = d
    · rw [if_pos he, ← he]
      by_cases hx : x = f
      · rw [hx, memFrom.eq_2, if_neg (Nat.lt_irrefl f), memFrom_of_lt hfs]
        simp
      · simp [hx]
    · rw [if_neg he]
      by_cases he' : f = d + 1
      · rw [if_pos he', memFrom.eq_2, memFrom.eq_2, he']
        by_cases hx : x = d
        · rw [hx, if_neg (Nat.lt_irrefl d), memFrom_of_lt fun g hg => ?_]
          · simp
          · have := hfs g hg
            omega
        · have hiff : x < d ↔ x < d + 1 := by omega
          simp [hx, hiff]
      · rw [if_neg he']
        refine memFrom_single d x (f :: fs) fun g hg => ?_
        rcases List.mem_cons.mp hg with rfl | hg
        · omega
        · have := hfs g hg
          omega

theorem foldl_addBelow_spec {ds fs : List Nat} (hs : ds.Pairwise (· ≥ ·))
    (hp : fs.Pairwise (· < ·)) (hd : ∀ d ∈ ds, ∀ f ∈ fs, d ≤ f) :
    (ds.foldl (fun fs d => addBelow d fs) fs).Pairwise (· < ·) ∧
      ∀ x, memFrom false (ds.foldl (fun fs d => addBelow d fs) fs) x =
        (decide (x ∈ ds) || memFrom false fs x) := by
  induction ds generalizing fs with
  | nil => exact ⟨hp, fun x => by simp⟩
  | cons d ds ih =>
    rw [List.pairwise_cons] at hs
    have hle := hd d List.mem_cons_self
    have hrest := ih hs.2 (pairwise_addBelow hp hle) fun e he f hf =>
      Nat.le_trans (hs.1 e he) (le_of_mem_addBelow hle hf)
    refine ⟨hrest.1, ?_⟩
    intro x
    rw [List.foldl_cons, hrest.2, memFrom_addBelow hp hle]
    by_cases hx : x = d <;> simp [hx]

theorem pairwise_ofDescending {ds : List Nat} (h : ds.Pairwise (· ≥ ·)) :
    (ofDescending ds).Pairwise (· < ·) :=
  (foldl_addBelow_spec h List.Pairwise.nil (by simp)).1

theorem memFrom_ofDescending {ds : List Nat} (h : ds.Pairwise (· ≥ ·)) (d : Nat) :
    memFrom false (ofDescending ds) d = decide (d ∈ ds) := by
  rw [ofDescending, (foldl_addBelow_spec h List.Pairwise.nil (by simp)).2]
  simp [memFrom]

end UsageIndex.Flips
