import UsageIndex.Pattern.Search

/-!
# The law of the search

* **`Expr.occursIn_iff`**: the search finds an expression in a text exactly if the expression
  consumes some part of the text.

A move of sets is described by a relation between places (`Moves`): a place is reached from a set
if it is related to a member. The relation of an expression is `Expr.Leads`, and that of a
repetition is a number of steps along the relation of what is repeated.
-/

namespace UsageIndex.Pattern

/-! ## Sets -/

namespace Places

theorem eq_none_iff {s : Places} : s = none ↔ ∀ i, s.mem i = false := by
  constructor
  · rintro rfl i
    exact mem_none i
  · intro h
    exact Nat.eq_of_testBit_eq fun i => (h i).trans (mem_none i).symm

theorem exists_mem_of_ne_none {s : Places} (h : s ≠ none) : ∃ i, s.mem i = true := by
  false_or_by_contra
  rename_i hn
  refine h (eq_none_iff.mpr fun i => ?_)
  cases hi : s.mem i
  · rfl
  · exact absurd ⟨i, hi⟩ hn

end Places

/-! ## Steps along a relation -/

/-- A number of steps along a relation. -/
def Steps (R : Nat → Nat → Prop) : Nat → Nat → Nat → Prop
  | 0, i, j => i = j
  | n + 1, i, j => ∃ k, R i k ∧ Steps R n k j

variable {R : Nat → Nat → Prop}

theorem steps_add (m n i j : Nat) : Steps R (m + n) i j ↔ ∃ k, Steps R m i k ∧ Steps R n k j := by
  induction m generalizing i with
  | zero => simp [Steps]
  | succ m ih =>
    rw [Nat.add_right_comm]
    simp only [Steps, ih]
    exact ⟨fun ⟨k, hk, l, hl, hj⟩ => ⟨l, ⟨k, hk, hl⟩, hj⟩,
      fun ⟨l, ⟨k, hk, hl⟩, hj⟩ => ⟨k, hk, l, hl, hj⟩⟩

theorem steps_le {n m i j : Nat} (hR : ∀ i j, i ≤ n → R i j → j ≤ n) (hi : i ≤ n)
    (h : Steps R m i j) : j ≤ n := by
  induction m generalizing i with
  | zero => exact h ▸ hi
  | succ m ih =>
    obtain ⟨k, hk, h⟩ := h
    exact ih (hR i k hi hk) h

theorem steps_one (i j : Nat) : Steps R 1 i j ↔ R i j := by simp [Steps]

/-- A number of steps along a relation or in place is at most that number of steps along it. -/
theorem steps_or_eq (n i j : Nat) :
    Steps (fun i j => i = j ∨ R i j) n i j ↔ ∃ m, m ≤ n ∧ Steps R m i j := by
  induction n generalizing i with
  | zero =>
    constructor
    · exact fun h => ⟨0, Nat.le_refl 0, h⟩
    · rintro ⟨m, hm, h⟩
      obtain rfl : m = 0 := by omega
      exact h
  | succ n ih =>
    simp only [Steps, ih]
    constructor
    · rintro ⟨k, rfl | hk, m, hm, h⟩
      · exact ⟨m, by omega, h⟩
      · exact ⟨m + 1, by omega, k, hk, h⟩
    · rintro ⟨m, hm, h⟩
      cases m with
      | zero => exact ⟨i, .inl rfl, 0, by omega, h⟩
      | succ m =>
        obtain ⟨k, hk, h⟩ := h
        exact ⟨k, .inr hk, m, by omega, h⟩

/-! ## Moves of sets -/

/-- A function on sets of places up to `n` reaches what a relation relates to a member. -/
def Follows (n : Nat) (f : Places → Places) (R : Nat → Nat → Prop) : Prop :=
  ∀ s : Places, (∀ i, s.mem i = true → i ≤ n) →
    ∀ j, (f s).mem j = true ↔ ∃ i, s.mem i = true ∧ R i j

variable {n : Nat} {f : Places → Places}

theorem Follows.congr {S : Nat → Nat → Prop} (hf : Follows n f R)
    (h : ∀ i j, i ≤ n → (R i j ↔ S i j)) : Follows n f S := by
  intro s hs j
  rw [hf s hs j]
  exact exists_congr fun i => and_congr_right fun hi => h i j (hs i hi)

theorem Follows.le (hf : Follows n f R) (hR : ∀ i j, i ≤ n → R i j → j ≤ n) {s : Places}
    (hs : ∀ i, s.mem i = true → i ≤ n) (i : Nat) (hi : (f s).mem i = true) : i ≤ n := by
  obtain ⟨k, hk, hr⟩ := (hf s hs i).mp hi
  exact hR k i (hs k hk) hr

/-- The places that a set does not have. -/
def outside (n : Nat) (s : Places) : Nat := (List.range (n + 1)).countP fun i => !s.mem i

theorem outside_le (s : Places) : outside n s ≤ n + 1 := by
  have := List.countP_le_length (p := fun i => !s.mem i) (l := List.range (n + 1))
  rwa [List.length_range] at this

theorem outside_union_lt {s t : Places} {i : Nat} (hi : i ≤ n) (hs : s.mem i = false)
    (ht : t.mem i = true) : outside n (s.union t) < outside n s := by
  unfold outside
  generalize hl : List.range (n + 1) = l
  have hm : i ∈ l := by rw [← hl, List.mem_range]; omega
  clear hl
  have hle : ∀ l : List Nat, l.countP (fun i => !(s.union t).mem i) ≤ l.countP fun i => !s.mem i :=
    fun l => List.countP_mono_left fun k _ h => by
      rw [Places.mem_union] at h
      cases hk : s.mem k
      · rfl
      · simp [hk] at h
  induction l with
  | nil => cases hm
  | cons a l ih =>
    rw [List.countP_cons, List.countP_cons]
    rcases List.mem_cons.mp hm with rfl | hm
    · have := hle l
      simp only [Places.mem_union, hs, ht, Bool.or_true, Bool.not_true, Bool.false_eq_true,
        if_false, Bool.not_false, if_true]
      simp only [Places.mem_union] at this
      omega
    · have := ih hm
      have ha : (if (!(s.union t).mem a) = true then 1 else 0) ≤
          if (!s.mem a) = true then 1 else 0 := by
        rw [Places.mem_union]
        cases s.mem a <;> cases t.mem a <;> simp
      omega

theorem follows_steps_of_eq (hf : Follows n f R) {s : Places} (hs : ∀ i, s.mem i = true → i ≤ n)
    (he : f s = s) (m j : Nat) : s.mem j = true ↔ ∃ i, s.mem i = true ∧ Steps R m i j := by
  induction m generalizing j with
  | zero => simp [Steps]
  | succ m ih =>
    have h := hf s hs j
    rw [he] at h
    rw [h]
    simp only [steps_add, steps_one]
    constructor
    · rintro ⟨k, hk, hr⟩
      obtain ⟨i, hi, hm⟩ := (ih k).mp hk
      exact ⟨i, hi, k, hm, hr⟩
    · rintro ⟨i, hi, k, hm, hr⟩
      exact ⟨k, (ih k).mpr ⟨i, hi, hm⟩, hr⟩

theorem Follows.settle (hf : Follows n f R) (hR : ∀ i j, i ≤ n → R i j → j ≤ n) (m : Nat) :
    Follows n (settle f m) (Steps R m) := by
  induction m with
  | zero => intro s _ j; simp [Pattern.settle, Steps]
  | succ m ih =>
    intro s hs j
    unfold Pattern.settle
    simp only
    split
    · rename_i he
      exact follows_steps_of_eq hf hs (by simpa using he) (m + 1) j
    · rw [ih (f s) (hf.le hR hs)]
      constructor
      · rintro ⟨k, hk, hm⟩
        obtain ⟨i, hi, hr⟩ := (hf s hs k).mp hk
        exact ⟨i, hi, k, hr, hm⟩
      · rintro ⟨i, hi, k, hr, hm⟩
        exact ⟨k, (hf s hs k).mpr ⟨i, hi, hr⟩, hm⟩

theorem Follows.orStay (hf : Follows n f R) :
    Follows n (fun t => t.union (f t)) fun i j => i = j ∨ R i j := by
  intro s hs j
  rw [Places.mem_union, Bool.or_eq_true, hf s hs j]
  constructor
  · rintro (h | ⟨i, hi, hr⟩)
    · exact ⟨j, h, .inl rfl⟩
    · exact ⟨i, hi, .inr hr⟩
  · rintro ⟨i, hi, rfl | hr⟩
    · exact .inl hi
    · exact .inr ⟨i, hi, hr⟩

/-- What `onward` explores: the places `T`, which can be reached from the front, and whose
successors are either explored too or were seen before. -/
theorem onward_explores (hf : Follows n f R) (hR : ∀ i j, i ≤ n → R i j → j ≤ n) (m : Nat)
    (seen front : Places) (hs : ∀ i, front.mem i = true → i ≤ n) (hm : outside n seen < m) :
    ∃ T : Nat → Prop, (∀ i, front.mem i = true → T i)
      ∧ (∀ i, T i → ∃ a, front.mem a = true ∧ ∃ k, Steps R k a i)
      ∧ (∀ j, (onward f m seen front).mem j = true ↔ ∃ i, T i ∧ R i j)
      ∧ ∀ j, (onward f m seen front).mem j = true → seen.mem j = true ∨ T j := by
  induction m generalizing seen front with
  | zero => omega
  | succ m ih =>
    have hb := hf.le hR hs
    unfold onward
    simp only
    split
    · rename_i he
      have he : (f front).diff seen = .none := by simpa using he
      refine ⟨fun i => front.mem i = true, fun i hi => hi, fun i hi => ⟨i, hi, 0, rfl⟩, hf front hs,
        fun j hj => .inl ?_⟩
      have := Places.eq_none_iff.mp he j
      rw [Places.mem_diff, hj] at this
      simpa using this
    · rename_i he
      have he : (f front).diff seen ≠ .none := by simpa using he
      obtain ⟨a, ha⟩ := Places.exists_mem_of_ne_none he
      have hd : ∀ i, ((f front).diff seen).mem i = true → (f front).mem i = true
          ∧ seen.mem i = false := by
        intro i hi
        rw [Places.mem_diff] at hi
        simpa using hi
      obtain ⟨T, hT, hreach, hmem, hclosed⟩ := ih (seen.union ((f front).diff seen))
        ((f front).diff seen) (fun i hi => hb i (hd i hi).1)
        (Nat.lt_of_lt_of_le (outside_union_lt (hb a (hd a ha).1) (hd a ha).2 ha) (by omega))
      refine ⟨fun i => front.mem i = true ∨ T i, fun i hi => .inl hi, ?_, ?_, ?_⟩
      · rintro i (hi | hi)
        · exact ⟨i, hi, 0, rfl⟩
        · obtain ⟨b, hb', k, hk⟩ := hreach i hi
          obtain ⟨c, hc, hr⟩ := (hf front hs b).mp (hd b hb').1
          exact ⟨c, hc, k + 1, b, hr, hk⟩
      · intro j
        rw [Places.mem_union, Bool.or_eq_true, hf front hs j, hmem j]
        constructor
        · rintro (⟨i, hi, hr⟩ | ⟨i, hi, hr⟩)
          · exact ⟨i, .inl hi, hr⟩
          · exact ⟨i, .inr hi, hr⟩
        · rintro ⟨i, hi | hi, hr⟩
          · exact .inl ⟨i, hi, hr⟩
          · exact .inr ⟨i, hi, hr⟩
      · intro j hj
        rw [Places.mem_union, Bool.or_eq_true] at hj
        rcases hj with hj | hj
        · cases hsj : seen.mem j
          · refine .inr (.inr (hT j ?_))
            rw [Places.mem_diff, hj, hsj]
            rfl
          · exact .inl rfl
        · rcases hclosed j hj with h | h
          · rw [Places.mem_union, Bool.or_eq_true] at h
            exact h.imp id fun h => .inr (hT j h)
          · exact .inr (.inr h)

theorem mem_onward (hf : Follows n f R) (hR : ∀ i j, i ≤ n → R i j → j ≤ n) {m : Nat}
    (hm : n + 1 < m) {s : Places} (hs : ∀ i, s.mem i = true → i ≤ n) (j : Nat) :
    (onward f m s s).mem j = true ↔ ∃ i, s.mem i = true ∧ ∃ k, Steps R (k + 1) i j := by
  obtain ⟨T, hT, hreach, hmem, hclosed⟩ := onward_explores hf hR m s s hs
    (Nat.lt_of_le_of_lt (outside_le s) hm)
  have hstep : ∀ k i j, T i → Steps R k i j → T j := by
    intro k
    induction k with
    | zero => rintro i j hi rfl; exact hi
    | succ k ih =>
      rintro i j hi ⟨l, hl, h⟩
      refine ih l j ?_ h
      exact (hclosed l ((hmem l).mpr ⟨i, hi, hl⟩)).elim (hT l) id
  rw [hmem j]
  constructor
  · rintro ⟨i, hi, hr⟩
    obtain ⟨a, ha, k, hk⟩ := hreach i hi
    exact ⟨a, ha, k, (steps_add k 1 a j).mpr ⟨i, hk, (steps_one i j).mpr hr⟩⟩
  · rintro ⟨a, ha, k, hk⟩
    obtain ⟨i, hi, hr⟩ := (steps_add k 1 a j).mp hk
    exact ⟨i, hstep k a i (hT a ha) hi, (steps_one i j).mp hr⟩

namespace Follows

variable {p q : Moves} {S : Nat → Nat → Prop} {m : Nat}

theorem ends_seq (hp : Follows n (p.ends m) R) (hq : Follows n (q.ends m) S)
    (hR : ∀ i j, i ≤ n → R i j → j ≤ n) :
    Follows n ((Moves.seq p q).ends m) fun i j => ∃ k, R i k ∧ S k j := by
  intro s hs j
  simp only [Moves.ends]
  split
  · rename_i he
    have he := Places.eq_none_iff.mp (by simpa using he)
    simp only [Places.mem_none, Bool.false_eq_true, false_iff, not_exists, not_and]
    intro i hi k hk _
    have hmem := (hp s hs k).mpr ⟨i, hi, hk⟩
    rw [he k] at hmem
    cases hmem
  · rw [hq _ (hp.le hR hs) j]
    constructor
    · rintro ⟨k, hk, h⟩
      obtain ⟨i, hi, h'⟩ := (hp s hs k).mp hk
      exact ⟨i, hi, k, h', h⟩
    · rintro ⟨i, hi, k, h', h⟩
      exact ⟨k, (hp s hs k).mpr ⟨i, hi, h'⟩, h⟩

theorem ends_alt (hp : Follows n (p.ends m) R) (hq : Follows n (q.ends m) S) :
    Follows n ((Moves.alt p q).ends m) fun i j => R i j ∨ S i j := by
  intro s hs j
  simp only [Moves.ends, Places.mem_union, Bool.or_eq_true, hp s hs j, hq s hs j]
  constructor
  · rintro (⟨i, hi, h⟩ | ⟨i, hi, h⟩)
    · exact ⟨i, hi, .inl h⟩
    · exact ⟨i, hi, .inr h⟩
  · rintro ⟨i, hi, h | h⟩
    · exact .inl ⟨i, hi, h⟩
    · exact .inr ⟨i, hi, h⟩

/-- A move that is made at least `lo` and at most `hi` times. -/
theorem ends_between (hp : Follows n (p.ends m) R) (hR : ∀ i j, i ≤ n → R i j → j ≤ n)
    (lo hi : Nat) : Follows n ((Moves.rep p lo (some hi)).ends m) fun i j =>
      ∃ k, lo ≤ k ∧ k ≤ hi ∧ Steps R k i j := by
  intro s hs j
  unfold Moves.ends
  split
  · rename_i hlt
    simp only [Places.mem_none, Bool.false_eq_true, false_iff, not_exists, not_and]
    intro i _ k hk hk'
    omega
  · have hfirst := hp.settle hR lo
    have hsettled := hfirst.le (fun i j => steps_le hR) hs
    have hrest := hp.orStay.settle (fun i j hi h => h.elim (fun e => e ▸ hi) (hR i j hi)) (hi - lo)
    rw [hrest _ hsettled j]
    simp only [hfirst s hs, steps_or_eq]
    constructor
    · rintro ⟨k, ⟨i, hi', hlo⟩, l, hl, h⟩
      exact ⟨i, hi', lo + l, by omega, by omega, (steps_add lo l i j).mpr ⟨k, hlo, h⟩⟩
    · rintro ⟨i, hi', k, hlo, hhi, h⟩
      obtain ⟨l, rfl⟩ := Nat.exists_eq_add_of_le hlo
      obtain ⟨b, hb, h⟩ := (steps_add lo l i j).mp h
      exact ⟨b, ⟨i, hi', hb⟩, l, by omega, h⟩

/-- A move that is made at least `lo` times. -/
theorem ends_atLeast (hp : Follows n (p.ends m) R) (hR : ∀ i j, i ≤ n → R i j → j ≤ n)
    (hm : n + 1 < m) (lo : Nat) : Follows n ((Moves.rep p lo none).ends m) fun i j =>
      ∃ k, lo ≤ k ∧ Steps R k i j := by
  intro s hs j
  cases lo with
  | zero =>
    simp only [Moves.ends, Places.mem_union, Bool.or_eq_true, mem_onward hp hR hm hs, Nat.zero_le,
      true_and]
    constructor
    · rintro (h | ⟨i, hi, k, h⟩)
      · exact ⟨j, h, 0, rfl⟩
      · exact ⟨i, hi, k + 1, h⟩
    · rintro ⟨i, hi, k, h⟩
      cases k with
      | zero => exact .inl (by rw [← h]; exact hi)
      | succ k => exact .inr ⟨i, hi, k, h⟩
  | succ lo =>
    have hfirst := hp.settle hR lo
    have hsettled := hfirst.le (fun i j => steps_le hR) hs
    simp only [Moves.ends, mem_onward hp hR hm hsettled, hfirst s hs]
    constructor
    · rintro ⟨k, ⟨i, hi, hlo⟩, l, h⟩
      exact ⟨i, hi, lo + (l + 1), by omega, (steps_add lo (l + 1) i j).mpr ⟨k, hlo, h⟩⟩
    · rintro ⟨i, hi, k, hk, h⟩
      obtain ⟨l, rfl⟩ := Nat.exists_eq_add_of_le hk
      have e : lo + 1 + l = lo + (l + 1) := by omega
      rw [e] at h
      obtain ⟨b, hb, h⟩ := (steps_add lo (l + 1) i j).mp h
      exact ⟨b, ⟨i, hi, hb⟩, l, h⟩

end Follows

/-! ## Expressions and places -/

namespace Expr

/-- The expression `e` consumes what stands in the text `t` between two places. -/
def Leads (e : Expr) (t : List Char) (i j : Nat) : Prop :=
  ∃ b u a, t = b.reverse ++ (u ++ a) ∧ b.length = i ∧ i + u.length = j ∧ Spans e b u a

variable {t : List Char}

theorem Leads.le {e : Expr} {i j : Nat} (h : e.Leads t i j) : i ≤ j ∧ j ≤ t.length := by
  obtain ⟨b, u, a, rfl, rfl, rfl, -⟩ := h
  simp only [List.length_append, List.length_reverse]
  omega

theorem leads_empty (i j : Nat) : empty.Leads t i j ↔ i = j ∧ i ≤ t.length := by
  constructor
  · rintro ⟨b, u, a, rfl, rfl, rfl, ⟨⟩⟩
    simp
  · rintro ⟨rfl, hi⟩
    exact ⟨(t.take i).reverse, [], t.drop i, by simp, by simp [hi], rfl, .empty⟩

theorem leads_alt (p q : Expr) (i j : Nat) :
    (alt p q).Leads t i j ↔ p.Leads t i j ∨ q.Leads t i j := by
  constructor
  · rintro ⟨b, u, a, rfl, rfl, rfl, h⟩
    cases h with
    | altLeft h => exact .inl ⟨b, u, a, rfl, rfl, rfl, h⟩
    | altRight h => exact .inr ⟨b, u, a, rfl, rfl, rfl, h⟩
  · rintro (⟨b, u, a, rfl, rfl, rfl, h⟩ | ⟨b, u, a, rfl, rfl, rfl, h⟩)
    · exact ⟨b, u, a, rfl, rfl, rfl, .altLeft h⟩
    · exact ⟨b, u, a, rfl, rfl, rfl, .altRight h⟩

/-- Two ways to divide a text at one place are the same. -/
theorem divide_unique {b b' u a a' : List Char} (h : b.reverse ++ (u ++ a) = b'.reverse ++ a')
    (hl : b'.length = b.length + u.length) : b' = u.reverse ++ b ∧ a = a' := by
  rw [← List.append_assoc] at h
  obtain ⟨h₁, h₂⟩ := List.append_inj h (by simp [hl])
  refine ⟨?_, h₂⟩
  have := congrArg List.reverse h₁
  simpa using this.symm

theorem leads_seq (p q : Expr) (i j : Nat) :
    (seq p q).Leads t i j ↔ ∃ k, p.Leads t i k ∧ q.Leads t k j := by
  constructor
  · rintro ⟨b, w, a, rfl, rfl, rfl, h⟩
    cases h with
    | @seq _ _ _ u v _ hp hq =>
      refine ⟨b.length + u.length, ⟨b, u, v ++ a, by simp, rfl, rfl, hp⟩,
        ⟨u.reverse ++ b, v, a, by simp, by simp [Nat.add_comm], by simp [Nat.add_assoc], hq⟩⟩
  · rintro ⟨k, ⟨b, u, a, rfl, rfl, rfl, hp⟩, ⟨b', v, a', ht, hl, rfl, hq⟩⟩
    obtain ⟨rfl, rfl⟩ := divide_unique ht hl
    exact ⟨b, u ++ v, a', by simp, rfl, by simp [Nat.add_assoc], .seq hp hq⟩

theorem leads_rep (p : Expr) (lo : Nat) (hi : Option Nat) (i j : Nat) :
    (rep p lo hi).Leads t i j ↔
      i ≤ t.length ∧ ∃ m, lo ≤ m ∧ (∀ h, hi = some h → m ≤ h) ∧ Steps (p.Leads t) m i j := by
  constructor
  · rintro ⟨b, w, a, rfl, rfl, rfl, h⟩
    refine ⟨by simp, ?_⟩
    generalize he : rep p lo hi = e at h
    induction h generalizing lo hi with
    | empty | edge | one | seq | altLeft | altRight => cases he
    | repDone =>
      cases he
      exact ⟨0, Nat.le_refl 0, fun h _ => Nat.zero_le h, by simp [Steps]⟩
    | @repMore _ lo hi b u v a hne hp hq _ ih =>
      cases he
      obtain ⟨m, hlo, hhi, hm⟩ := ih (lo - 1) (hi.map (· - 1)) rfl
      refine ⟨m + 1, by omega, fun h hh => ?_, b.length + u.length,
        ⟨b, u, v ++ a, by simp, rfl, rfl, hp⟩, ?_⟩
      · have := hhi (h - 1) (by simp [hh])
        have : h ≠ 0 := fun h0 => hne (by rw [hh, h0])
        omega
      · have e₁ : (u.reverse ++ b).length = b.length + u.length := by simp [Nat.add_comm]
        have e₂ : b.length + (u ++ v).length = (u.reverse ++ b).length + v.length := by
          simp only [List.length_append, List.length_reverse]
          omega
        rw [e₂, ← e₁]
        simpa using hm
  · rintro ⟨hle, m, hlo, hhi, hm⟩
    induction m generalizing i lo hi with
    | zero =>
      obtain rfl : lo = 0 := by omega
      obtain rfl : i = j := hm
      exact ⟨(t.take i).reverse, [], t.drop i, by simp, by simp [hle], rfl, .repDone⟩
    | succ m ih =>
      obtain ⟨k, hk, hm⟩ := hm
      have hkl := hk.le
      obtain ⟨b', v, a', ht, hl, rfl, hq⟩ := ih (lo - 1) (hi.map (· - 1)) k hkl.2 (by omega)
        (fun h hh => by
          cases hi with
          | none => cases hh
          | some x =>
            have := hhi x rfl
            simp only [Option.map_some, Option.some.injEq] at hh
            omega) hm
      obtain ⟨b, u, a, rfl, rfl, rfl, hp⟩ := hk
      obtain ⟨rfl, rfl⟩ := divide_unique ht hl
      refine ⟨b, u ++ v, a', by simp, rfl, by simp [Nat.add_assoc], .repMore (fun h0 => ?_) hp hq⟩
      have := hhi 0 h0
      omega

/-! ## Leaves -/

theorem surroundings_getElem? (x : Option Char) (l a : List Char) :
    (surroundings x (l ++ a))[l.length]? = some (l.getLast?.or x, a.head?) := by
  induction l generalizing x with
  | nil => cases a <;> simp [surroundings]
  | cons c l ih =>
    simp only [List.cons_append, surroundings, List.length_cons, List.getElem?_cons_succ]
    rw [ih]
    cases l with
    | nil => simp
    | cons d l =>
      have h : (d :: l).getLast? = some ((d :: l).getLast (by simp)) :=
        List.getLast?_eq_some_getLast (by simp)
      rw [List.getLast?_cons_cons, h]
      rfl

theorem length_surroundings (x : Option Char) (t : List Char) :
    (surroundings x t).length = t.length + 1 := by
  induction t generalizing x with
  | nil => rfl
  | cons c t ih => simp [surroundings, ih]

theorem mem_marks_surroundings (g : Option Char × Option Char → Bool) (i : Nat) :
    (Places.marks ((surroundings none t).map g)).mem i = true ↔
      i ≤ t.length ∧ g ((t.take i).getLast?, (t.drop i).head?) = true := by
  rw [Places.mem_marks, List.getElem?_map]
  by_cases hi : i ≤ t.length
  · have h := surroundings_getElem? none (t.take i) (t.drop i)
    rw [List.take_append_drop, List.length_take, Nat.min_eq_left hi] at h
    rw [h]
    simp [hi]
  · rw [List.getElem?_eq_none (by rw [length_surroundings]; omega)]
    simp [hi]

theorem leads_edge (x : Assertion) (i j : Nat) :
    (edge x).Leads t i j ↔
      i = j ∧ i ≤ t.length ∧ x.holds (t.take i).getLast? (t.drop i).head? = true := by
  constructor
  · rintro ⟨b, u, a, rfl, rfl, rfl, h⟩
    cases h with
    | edge h =>
      refine ⟨rfl, by simp, ?_⟩
      rw [List.nil_append, List.take_left' (by simp), List.drop_left' (by simp),
        List.getLast?_reverse]
      exact h
  · rintro ⟨rfl, hi, h⟩
    refine ⟨(t.take i).reverse, [], t.drop i, by simp, by simp [hi], rfl, .edge ?_⟩
    rw [List.head?_reverse]
    exact h

theorem leads_one (s : CharSet) (i j : Nat) :
    (one s).Leads t i j ↔ j = i + 1 ∧ ∃ c, t[i]? = some c ∧ s.contains c = true := by
  constructor
  · rintro ⟨b, u, a, rfl, rfl, rfl, h⟩
    cases h with
    | @one _ c _ _ h =>
      refine ⟨rfl, c, ?_, h⟩
      rw [List.getElem?_append_right (by simp)]
      simp
  · rintro ⟨rfl, c, hc, h⟩
    obtain ⟨hi, rfl⟩ := List.getElem?_eq_some_iff.mp hc
    exact ⟨(t.take i).reverse, [t[i]], t.drop (i + 1), by simp,
      by simp [Nat.le_of_lt hi], rfl, .one h⟩

theorem mem_placesBefore (s : CharSet) (i : Nat) :
    (placesBefore s (letters t)).mem i = true ↔ ∃ c, t[i]? = some c ∧ s.contains c = true := by
  have hfold : ∀ (ls : List (Char × Places)) (m : Places),
      (ls.foldl (fun m l => if s.contains l.1 then m.union l.2 else m) m).mem i = true ↔
        m.mem i = true ∨ ∃ l ∈ ls, s.contains l.1 = true ∧ l.2.mem i = true := by
    intro ls
    induction ls with
    | nil => simp
    | cons l ls ih =>
      intro m
      rw [List.foldl_cons, ih]
      split
      · rename_i hl
        rw [Places.mem_union, Bool.or_eq_true, or_assoc]
        simp [hl]
      · rename_i hl
        simp [hl]
  unfold placesBefore letters
  rw [hfold, Places.mem_none]
  simp only [Bool.false_eq_true, List.mem_map, List.mem_eraseDups, false_or]
  constructor
  · rintro ⟨_, ⟨c, -, rfl⟩, hs, hm⟩
    refine ⟨c, ?_, hs⟩
    rw [Places.mem_marks, List.getElem?_map] at hm
    cases h : t[i]? with
    | none => simp [h] at hm
    | some d =>
      simp only [h, Option.map_some, Option.getD_some, beq_iff_eq] at hm
      rw [hm]
  · rintro ⟨c, hc, hs⟩
    refine ⟨(c, _), ⟨c, List.mem_of_getElem? hc, rfl⟩, hs, ?_⟩
    rw [Places.mem_marks, List.getElem?_map, hc]
    simp

/-! ## Search -/

/-- The moves of an expression follow what the expression consumes. -/
theorem follows_ends (e : Expr) {m : Nat} (hm : t.length + 1 < m) :
    Follows t.length ((e.on (letters t) (surroundings none t)).ends m) (e.Leads t) := by
  have hR : ∀ p : Expr, ∀ i j, i ≤ t.length → p.Leads t i j → j ≤ t.length :=
    fun p i j _ h => h.le.2
  induction e with
  | empty =>
    intro s hs j
    simp only [on, Moves.ends, Places.mem_inter, Bool.and_eq_true, mem_marks_surroundings,
      leads_empty]
    exact ⟨fun h => ⟨j, h.1, rfl, h.2.1⟩, fun ⟨i, hi, he, hl⟩ => he ▸ ⟨hi, hl, trivial⟩⟩
  | edge x =>
    intro s hs j
    simp only [on, Moves.ends, Places.mem_inter, Bool.and_eq_true, mem_marks_surroundings,
      leads_edge]
    exact ⟨fun h => ⟨j, h.1, rfl, h.2⟩, fun ⟨i, hi, he, hl⟩ => he ▸ ⟨hi, hl⟩⟩
  | one c =>
    intro s hs j
    simp only [on, Moves.ends, leads_one]
    cases j with
    | zero =>
      rw [Places.mem_next_zero]
      simp
    | succ j =>
      rw [Places.mem_next_succ, Places.mem_inter, Bool.and_eq_true, mem_placesBefore]
      constructor
      · exact fun h => ⟨j, h.1, rfl, h.2⟩
      · rintro ⟨i, hi, he, h⟩
        obtain rfl : j = i := by omega
        exact ⟨hi, h⟩
  | seq p q hp hq => exact (hp.ends_seq hq (hR p)).congr fun i j _ => (leads_seq p q i j).symm
  | alt p q hp hq => exact (hp.ends_alt hq).congr fun i j _ => (leads_alt p q i j).symm
  | rep p lo hi hp =>
    cases hi with
    | some hi =>
      refine (hp.ends_between (hR p) lo hi).congr fun i j hi' => ?_
      simp only [leads_rep, hi', Option.some.injEq, forall_eq', true_and]
    | none =>
      refine (hp.ends_atLeast (hR p) hm lo).congr fun i j hi' => ?_
      simp only [leads_rep, hi', reduceCtorEq, false_implies, implies_true, true_and]

/-- **Search.** A text is searched for an expression with success exactly if the expression consumes
some part of the text. -/
theorem occursIn_iff (e : Expr) (t : List Char) : e.occursIn t = true ↔ e.Occurs t := by
  have hall : ∀ i, (Places.marks ((surroundings none t).map fun _ => true)).mem i = true ↔
      i ≤ t.length := fun i => by rw [mem_marks_surroundings]; simp
  have hends := follows_ends (t := t) e (m := (surroundings none t).length + 1)
    (by rw [length_surroundings]; omega) (.marks ((surroundings none t).map fun _ => true))
    (fun i hi => (hall i).mp hi)
  unfold occursIn
  simp only [bne_iff_ne]
  constructor
  · intro h
    obtain ⟨j, hj⟩ := Places.exists_mem_of_ne_none h
    obtain ⟨i, -, b, u, a, rfl, -, -, hs⟩ := (hends j).mp hj
    exact ⟨b.reverse, u, a, by simp, by simpa using hs⟩
  · rintro ⟨b, u, a, rfl, h⟩ he
    have hmem := (hends (b.length + u.length)).mpr ⟨b.length, (hall _).mpr (by simp),
      b.reverse, u, a, by simp, by simp, rfl, h⟩
    rw [he, Places.mem_none] at hmem
    cases hmem

end Expr

end UsageIndex.Pattern
