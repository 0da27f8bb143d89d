/-!
# Ordered sets

A finite set kept as the strictly ascending list of its members, so that two sets with the same
members are equal. `StrictTotal α` says that `<` on `α` is irreflexive, transitive and compares any
two values. Texts are ordered by code point (`instStrictTotalString`).

* **`pairwise_ext`**: ascending lists with the same members are equal.
* **`OrderedSet.mem_insert`**, **`OrderedSet.mem_ofList`**, **`OrderedSet.mem_union`**: what each
  operation does to the members.
* **`OrderedSet.ext`**: sets with the same members are equal.
-/

namespace UsageIndex

/-! ## Strict total orders -/

/-- The relation `<` is a strict total order. -/
class StrictTotal (α : Type) [LT α] : Prop where
  irrefl : ∀ a : α, ¬ a < a
  trans : ∀ {a b c : α}, a < b → b < c → a < c
  total : ∀ a b : α, a < b ∨ a = b ∨ b < a

instance instStrictTotalString : StrictTotal String where
  irrefl := String.lt_irrefl
  trans := String.lt_trans
  total a b := by
    rcases Classical.em (a < b) with h | h
    · exact Or.inl h
    · rcases Classical.em (b < a) with h' | h'
      · exact Or.inr (Or.inr h')
      · exact Or.inr (Or.inl (String.le_antisymm (String.not_lt.mp h') (String.not_lt.mp h)))

namespace StrictTotal

variable {α : Type} [LT α] [StrictTotal α]

theorem asymm {a b : α} (h : a < b) : ¬ b < a := fun h' => irrefl a (trans h h')

theorem ne {a b : α} (h : a < b) : a ≠ b := fun e => irrefl a (by rw [← e] at h; exact h)

theorem eq_of_not_lt {a b : α} (h : ¬ a < b) (h' : ¬ b < a) : a = b := by
  rcases total a b with h₁ | h₁ | h₁
  · exact absurd h₁ h
  · exact h₁
  · exact absurd h₁ h'

end StrictTotal

/-! ## Ascending lists -/

/-- Puts `a` into an ascending list, unless it is there. -/
def insertAscending {α : Type} [LT α] [DecidableLT α] (a : α) : List α → List α
  | [] => [a]
  | b :: bs =>
    if a < b then a :: b :: bs
    else if b < a then b :: insertAscending a bs
    else b :: bs

section Ascending

variable {α : Type} [LT α] [DecidableLT α] [StrictTotal α]

theorem mem_insertAscending {a x : α} {l : List α} :
    x ∈ insertAscending a l ↔ x = a ∨ x ∈ l := by
  induction l with
  | nil => simp [insertAscending]
  | cons b bs ih =>
    unfold insertAscending
    split
    · simp
    · split
      · simp only [List.mem_cons, ih]
        constructor
        · rintro (h | h | h) <;> simp [h]
        · rintro (h | h | h) <;> simp [h]
      · rename_i h h'
        have e := StrictTotal.eq_of_not_lt h h'
        subst e
        simp

theorem pairwise_insertAscending {a : α} {l : List α} (h : l.Pairwise (· < ·)) :
    (insertAscending a l).Pairwise (· < ·) := by
  induction l with
  | nil => simp [insertAscending]
  | cons b bs ih =>
    rw [List.pairwise_cons] at h
    unfold insertAscending
    by_cases hab : a < b
    · rw [if_pos hab]
      refine List.pairwise_cons.mpr ⟨fun x hx => ?_, List.pairwise_cons.mpr h⟩
      rcases List.mem_cons.mp hx with rfl | hx
      · exact hab
      · exact StrictTotal.trans hab (h.1 x hx)
    · rw [if_neg hab]
      by_cases hba : b < a
      · rw [if_pos hba]
        refine List.pairwise_cons.mpr ⟨fun x hx => ?_, ih h.2⟩
        rcases mem_insertAscending.mp hx with rfl | hx
        · exact hba
        · exact h.1 x hx
      · rw [if_neg hba]
        exact List.pairwise_cons.mpr h

omit [DecidableLT α] in
/-- Lists that ascend by a key and have the same members are equal. -/
theorem pairwise_ext {β : Type} (key : β → α) {l m : List β}
    (hl : l.Pairwise fun x y => key x < key y) (hm : m.Pairwise fun x y => key x < key y)
    (h : ∀ x, x ∈ l ↔ x ∈ m) : l = m := by
  have hne : ∀ {x y : β}, key x < key y → x ≠ y :=
    fun hlt he => StrictTotal.ne hlt (congrArg key he)
  have hperm : l.Perm m := (List.perm_ext_iff_of_nodup (hl.imp hne) (hm.imp hne)).mpr h
  exact hperm.eq_of_pairwise (fun x y _ _ hxy hyx => absurd hyx (StrictTotal.asymm hxy)) hl hm

/-- Of an ascending list, what is dropped up to `a` is what is below `a`. -/
theorem mem_dropWhile_lt {l : List α} {a x : α} (h : l.Pairwise (· < ·)) :
    x ∈ l.dropWhile (fun y => decide (y < a)) ↔ x ∈ l ∧ ¬ x < a := by
  induction l with
  | nil => simp
  | cons b bs ih =>
    rw [List.pairwise_cons] at h
    by_cases hb : b < a
    · rw [List.dropWhile_cons_of_pos (by simpa using hb), ih h.2, List.mem_cons]
      constructor
      · exact fun hx => ⟨.inr hx.1, hx.2⟩
      · rintro ⟨rfl | hx, hxa⟩
        · exact absurd hb hxa
        · exact ⟨hx, hxa⟩
    · rw [List.dropWhile_cons_of_neg (by simpa using hb)]
      refine ⟨fun hx => ⟨hx, fun hxa => ?_⟩, fun hx => hx.1⟩
      rcases List.mem_cons.mp hx with rfl | hx
      · exact hb hxa
      · exact hb (StrictTotal.trans (h.1 x hx) hxa)

end Ascending

/-- A finite set, kept as the strictly ascending list of its members. -/
structure OrderedSet (α : Type) [LT α] where
  toList : List α
  ascending : toList.Pairwise (· < ·)

namespace OrderedSet

variable {α : Type} [LT α] [DecidableLT α] [StrictTotal α]

omit [DecidableLT α] [StrictTotal α] in
theorem eq_of_toList_eq {s t : OrderedSet α} (h : s.toList = t.toList) : s = t := by
  cases s; cases t; cases h; rfl

instance [DecidableEq α] : DecidableEq (OrderedSet α) := fun s t =>
  if h : s.toList = t.toList then .isTrue (eq_of_toList_eq h)
  else .isFalse fun e => h (by rw [e])

instance : Membership α (OrderedSet α) := ⟨fun s a => a ∈ s.toList⟩

omit [DecidableLT α] [StrictTotal α] in
theorem mem_def {s : OrderedSet α} {a : α} : a ∈ s ↔ a ∈ s.toList := Iff.rfl

instance [DecidableEq α] (a : α) (s : OrderedSet α) : Decidable (a ∈ s) :=
  inferInstanceAs (Decidable (a ∈ s.toList))

/-- The set without members. -/
def empty : OrderedSet α := ⟨[], List.Pairwise.nil⟩

/-- Whether a set has no members. -/
def isEmpty (s : OrderedSet α) : Bool := s.toList.isEmpty

/-- The number of members. -/
def size (s : OrderedSet α) : Nat := s.toList.length

/-- A set with one more member. -/
def insert (s : OrderedSet α) (a : α) : OrderedSet α :=
  ⟨insertAscending a s.toList, pairwise_insertAscending s.ascending⟩

/-- The members of a list. -/
def ofList (l : List α) : OrderedSet α := l.foldl insert empty

/-- The members of either of two sets. -/
def union (s t : OrderedSet α) : OrderedSet α := t.toList.foldl insert s

omit [DecidableLT α] [StrictTotal α] in
@[simp] theorem not_mem_empty (a : α) : a ∉ (empty : OrderedSet α) := List.not_mem_nil

@[simp] theorem mem_insert {s : OrderedSet α} {a x : α} : x ∈ s.insert a ↔ x = a ∨ x ∈ s :=
  mem_insertAscending

theorem mem_foldl_insert {l : List α} {s : OrderedSet α} {x : α} :
    x ∈ l.foldl insert s ↔ x ∈ s ∨ x ∈ l := by
  induction l generalizing s with
  | nil => simp
  | cons a as ih =>
    rw [List.foldl_cons, ih, mem_insert, List.mem_cons]
    constructor
    · rintro ((h | h) | h) <;> simp [h]
    · rintro (h | h | h) <;> simp [h]

@[simp] theorem mem_ofList {l : List α} {x : α} : x ∈ ofList l ↔ x ∈ l := by
  simp [ofList, mem_foldl_insert]

@[simp] theorem mem_union {s t : OrderedSet α} {x : α} : x ∈ s.union t ↔ x ∈ s ∨ x ∈ t :=
  mem_foldl_insert

omit [DecidableLT α] in
/-- Sets with the same members are equal. -/
theorem ext {s t : OrderedSet α} (h : ∀ x, x ∈ s ↔ x ∈ t) : s = t :=
  eq_of_toList_eq (pairwise_ext id s.ascending t.ascending h)

end OrderedSet

end UsageIndex
