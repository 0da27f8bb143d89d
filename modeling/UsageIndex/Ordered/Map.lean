import UsageIndex.Ordered.Set

/-!
# Ordered maps

A finite map kept as the list of its entries in strictly ascending order of the keys.

* **`OrderedMap.find?_alter`**: `alter` changes the value of one key and no other.
* **`OrderedMap.mem_entries_iff`**: the entries are what `find?` finds.
* **`OrderedMap.ext`**: maps that find the same are equal.
* **`OrderedMap.find?_foldl_insert`**: what is found in a map into which entries are put one after
  the other. **`OrderedMap.foldl_insert_entries`**: the entries of a map make that map.
-/

namespace UsageIndex

section Entries

variable {κ α : Type} [LT κ] [DecidableLT κ]

/-- Changes the value of one key in an ascending list of entries. -/
def alterEntries (k : κ) (f : Option α → α) : List (κ × α) → List (κ × α)
  | [] => [(k, f none)]
  | (k', a) :: rest =>
    if k < k' then (k, f none) :: (k', a) :: rest
    else if k' < k then (k', a) :: alterEntries k f rest
    else (k', f (some a)) :: rest

/-- The value of a key in an ascending list of entries. -/
def findEntry (k : κ) : List (κ × α) → Option α
  | [] => none
  | (k', a) :: rest =>
    if k < k' then none else if k' < k then findEntry k rest else some a

variable [StrictTotal κ]

theorem key_mem_alterEntries {k x : κ} {f : Option α → α} {l : List (κ × α)} :
    x ∈ (alterEntries k f l).map Prod.fst ↔ x = k ∨ x ∈ l.map Prod.fst := by
  induction l with
  | nil => simp [alterEntries]
  | cons e rest ih =>
    obtain ⟨k', a⟩ := e
    unfold alterEntries
    split
    · simp
    · split
      · rw [List.map_cons, List.map_cons, List.mem_cons, List.mem_cons, ih]
        constructor
        · rintro (h | h | h) <;> simp [h]
        · rintro (h | h | h) <;> simp [h]
      · rename_i h h'
        have e := StrictTotal.eq_of_not_lt h h'
        subst e
        simp

theorem pairwise_alterEntries {k : κ} {f : Option α → α} {l : List (κ × α)}
    (h : l.Pairwise (fun x y => x.1 < y.1)) :
    (alterEntries k f l).Pairwise (fun x y => x.1 < y.1) := by
  induction l with
  | nil => simp [alterEntries]
  | cons e rest ih =>
    obtain ⟨k', a⟩ := e
    rw [List.pairwise_cons] at h
    unfold alterEntries
    by_cases hk : k < k'
    · rw [if_pos hk]
      refine List.pairwise_cons.mpr ⟨fun x hx => ?_, List.pairwise_cons.mpr h⟩
      rcases List.mem_cons.mp hx with rfl | hx
      · exact hk
      · exact StrictTotal.trans hk (h.1 x hx)
    · rw [if_neg hk]
      by_cases hk' : k' < k
      · rw [if_pos hk']
        refine List.pairwise_cons.mpr ⟨fun x hx => ?_, ih h.2⟩
        have hmem : x.1 ∈ (alterEntries k f rest).map Prod.fst := List.mem_map_of_mem hx
        rcases key_mem_alterEntries.mp hmem with e | hmem
        · rw [e]
          exact hk'
        · obtain ⟨y, hy, e⟩ := List.mem_map.mp hmem
          rw [← e]
          exact h.1 y hy
      · rw [if_neg hk']
        exact List.pairwise_cons.mpr ⟨h.1, h.2⟩

theorem findEntry_alterEntries {k x : κ} {f : Option α → α} {l : List (κ × α)}
    (h : l.Pairwise (fun x y => x.1 < y.1)) [Decidable (x = k)] :
    findEntry x (alterEntries k f l) =
      if x = k then some (f (findEntry k l)) else findEntry x l := by
  induction l with
  | nil =>
    simp only [alterEntries, findEntry]
    split
    · rename_i hlt
      rw [if_neg (StrictTotal.ne hlt)]
    · split
      · rename_i hlt
        have hne : x ≠ k := fun e => StrictTotal.ne hlt e.symm
        rw [if_neg hne]
      · rename_i h₁ h₂
        rw [if_pos (StrictTotal.eq_of_not_lt h₁ h₂)]
  | cons e rest ih =>
    obtain ⟨k', a⟩ := e
    rw [List.pairwise_cons] at h
    have ih := ih h.2
    by_cases hkk : k < k'
    · simp only [alterEntries, findEntry, if_pos hkk]
      rcases StrictTotal.total x k with hx | hx | hx
      · rw [if_pos hx, if_neg (StrictTotal.ne hx), if_pos (StrictTotal.trans hx hkk)]
      · subst hx
        rw [if_neg (StrictTotal.irrefl x), if_neg (StrictTotal.irrefl x), if_pos rfl]
      · have hne : x ≠ k := fun e => StrictTotal.ne hx e.symm
        rw [if_neg (StrictTotal.asymm hx), if_pos hx, if_neg hne]
    · by_cases hkk' : k' < k
      · simp only [alterEntries, findEntry, if_neg hkk, if_pos hkk']
        by_cases hx : x < k'
        · have hne : x ≠ k := StrictTotal.ne (StrictTotal.trans hx hkk')
          rw [if_pos hx, if_pos hx, if_neg hne]
        · rw [if_neg hx, if_neg hx]
          by_cases hx' : k' < x
          · rw [if_pos hx', if_pos hx', ih]
          · rw [if_neg hx', if_neg hx']
            have e := StrictTotal.eq_of_not_lt hx hx'
            have hne : x ≠ k := fun e' => StrictTotal.ne hkk' (by rw [← e, e'])
            rw [if_neg hne]
      · have e := StrictTotal.eq_of_not_lt hkk hkk'
        subst e
        simp only [alterEntries, findEntry, if_neg (StrictTotal.irrefl k)]
        by_cases hx : x < k
        · rw [if_pos hx, if_pos hx, if_neg (StrictTotal.ne hx)]
        · rw [if_neg hx, if_neg hx]
          by_cases hx' : k < x
          · have hne : x ≠ k := fun e => StrictTotal.ne hx' e.symm
            rw [if_pos hx', if_pos hx', if_neg hne]
          · rw [if_neg hx', if_neg hx', if_pos (StrictTotal.eq_of_not_lt hx hx')]

theorem findEntry_eq_some_iff {k : κ} {a : α} {l : List (κ × α)}
    (h : l.Pairwise (fun x y => x.1 < y.1)) : findEntry k l = some a ↔ (k, a) ∈ l := by
  induction l with
  | nil => simp [findEntry]
  | cons e rest ih =>
    obtain ⟨k', b⟩ := e
    rw [List.pairwise_cons] at h
    unfold findEntry
    by_cases hk : k < k'
    · rw [if_pos hk]
      simp only [reduceCtorEq, List.mem_cons, Prod.mk.injEq, false_iff, not_or]
      refine ⟨fun e => StrictTotal.ne hk e.1, ?_⟩
      intro hm
      exact StrictTotal.asymm hk (h.1 _ hm)
    · rw [if_neg hk]
      by_cases hk' : k' < k
      · rw [if_pos hk', ih h.2, List.mem_cons]
        constructor
        · exact Or.inr
        · rintro (e | hm)
          · exact absurd (Prod.mk.injEq .. ▸ e).1.symm (StrictTotal.ne hk')
          · exact hm
      · rw [if_neg hk']
        have e := StrictTotal.eq_of_not_lt hk hk'
        subst e
        simp only [Option.some.injEq, List.mem_cons, Prod.mk.injEq, true_and]
        constructor
        · exact fun e => Or.inl e.symm
        · rintro (e | hm)
          · exact e.symm
          · exact absurd (h.1 _ hm) (StrictTotal.irrefl k)

omit [StrictTotal κ] in
theorem findEntry_map {β : Type} (f : α → β) (k : κ) (l : List (κ × α)) :
    findEntry k (l.map fun e => (e.1, f e.2)) = (findEntry k l).map f := by
  induction l with
  | nil => rfl
  | cons e rest ih =>
    rw [List.map_cons]
    unfold findEntry
    by_cases h : k < e.1
    · rw [if_pos h, if_pos h]
      rfl
    · rw [if_neg h, if_neg h]
      by_cases h' : e.1 < k
      · rw [if_pos h', if_pos h']
        exact ih
      · rw [if_neg h', if_neg h']
        rfl

end Entries

/-- A finite map, kept as the list of its entries in strictly ascending order of the keys. -/
structure OrderedMap (κ α : Type) [LT κ] where
  entries : List (κ × α)
  ascending : entries.Pairwise (fun x y => x.1 < y.1)

namespace OrderedMap

variable {κ α β : Type} [LT κ] [DecidableLT κ] [StrictTotal κ]

omit [DecidableLT κ] [StrictTotal κ] in
theorem eq_of_entries_eq {m n : OrderedMap κ α} (h : m.entries = n.entries) : m = n := by
  cases m; cases n; cases h; rfl

instance [DecidableEq κ] [DecidableEq α] : DecidableEq (OrderedMap κ α) := fun m n =>
  if h : m.entries = n.entries then .isTrue (eq_of_entries_eq h)
  else .isFalse fun e => h (by rw [e])

/-- The map without entries. -/
def empty : OrderedMap κ α := ⟨[], List.Pairwise.nil⟩

/-- The value of a key. -/
def find? (m : OrderedMap κ α) (k : κ) : Option α := findEntry k m.entries

/-- A map with the value of one key changed; `f` is given the old value, if there is one. -/
def alter (m : OrderedMap κ α) (k : κ) (f : Option α → α) : OrderedMap κ α :=
  ⟨alterEntries k f m.entries, pairwise_alterEntries m.ascending⟩

/-- A map with the value of one key set. -/
def insert (m : OrderedMap κ α) (k : κ) (a : α) : OrderedMap κ α := m.alter k fun _ => a

/-- A map with every value changed by a function. -/
def mapValues (m : OrderedMap κ α) (f : α → β) : OrderedMap κ β :=
  ⟨m.entries.map fun e => (e.1, f e.2), List.pairwise_map.mpr m.ascending⟩

/-- The keys, ascending. -/
def keys (m : OrderedMap κ α) : List κ := m.entries.map Prod.fst

/-- The number of entries. -/
def size (m : OrderedMap κ α) : Nat := m.entries.length

omit [StrictTotal κ] in
@[simp] theorem find?_empty (k : κ) : (empty : OrderedMap κ α).find? k = none := rfl

/-- `alter` changes the value of one key and no other. -/
theorem find?_alter (m : OrderedMap κ α) (k x : κ) (f : Option α → α) [Decidable (x = k)] :
    (m.alter k f).find? x = if x = k then some (f (m.find? k)) else m.find? x :=
  findEntry_alterEntries m.ascending

theorem find?_insert (m : OrderedMap κ α) (k x : κ) (a : α) [Decidable (x = k)] :
    (m.insert k a).find? x = if x = k then some a else m.find? x :=
  find?_alter m k x _

/-- The entries are what `find?` finds. -/
theorem mem_entries_iff {m : OrderedMap κ α} {k : κ} {a : α} :
    (k, a) ∈ m.entries ↔ m.find? k = some a :=
  (findEntry_eq_some_iff m.ascending).symm

/-- Maps that find the same are equal. -/
theorem ext {m n : OrderedMap κ α} (h : ∀ k, m.find? k = n.find? k) : m = n :=
  eq_of_entries_eq <| pairwise_ext Prod.fst m.ascending n.ascending fun e => by
    obtain ⟨k, a⟩ := e
    rw [mem_entries_iff, mem_entries_iff, h]

omit [StrictTotal κ] in
@[simp] theorem find?_mapValues (m : OrderedMap κ α) (f : α → β) (k : κ) :
    (m.mapValues f).find? k = (m.find? k).map f :=
  findEntry_map f k m.entries

/-! ## Keys -/

omit [DecidableLT κ] [StrictTotal κ] in
theorem pairwise_keys (m : OrderedMap κ α) : m.keys.Pairwise (· < ·) :=
  List.pairwise_map.mpr m.ascending

omit [DecidableLT κ] in
theorem nodup_keys (m : OrderedMap κ α) : m.keys.Nodup := m.pairwise_keys.imp StrictTotal.ne

theorem mem_keys_iff {m : OrderedMap κ α} {k : κ} : k ∈ m.keys ↔ ∃ a, m.find? k = some a := by
  unfold keys
  rw [List.mem_map]
  constructor
  · rintro ⟨⟨k', a⟩, he, rfl⟩
    exact ⟨a, mem_entries_iff.mp he⟩
  · rintro ⟨a, ha⟩
    exact ⟨(k, a), mem_entries_iff.mpr ha, rfl⟩

/-- Entries with different keys that are put into a map are found in it, beside what was there. -/
theorem find?_foldl_insert {es : List (κ × α)} (h : (es.map Prod.fst).Nodup) {m : OrderedMap κ α}
    {k : κ} {a : α} : (es.foldl (fun m e => m.insert e.1 e.2) m).find? k = some a ↔
      (k, a) ∈ es ∨ k ∉ es.map Prod.fst ∧ m.find? k = some a := by
  classical
  induction es generalizing m with
  | nil => simp
  | cons e es ih =>
    obtain ⟨k', b⟩ := e
    rw [List.map_cons, List.nodup_cons] at h
    rw [List.foldl_cons, ih h.2, find?_insert, List.map_cons, List.mem_cons, List.mem_cons]
    by_cases hk : k = k'
    · subst hk
      have hnot : (k, a) ∉ es := fun hm => h.1 (List.mem_map.mpr ⟨_, hm, rfl⟩)
      simp [hnot, h.1, eq_comm]
    · simp [hk]

/-- **The entries of a map**, put in one after the other, are that map. -/
theorem foldl_insert_entries (m : OrderedMap κ α) :
    m.entries.foldl (fun n e => n.insert e.1 e.2) empty = m :=
  ext fun k => Option.ext fun a => by
    rw [find?_foldl_insert m.nodup_keys, mem_entries_iff]
    simp

end OrderedMap

end UsageIndex
