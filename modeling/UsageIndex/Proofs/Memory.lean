import UsageIndex.Segment

/-!
# The documents of a segment in memory

What a segment in memory answers, told from the lists of terms of its documents alone.

* **`MemorySegment.mem_postings`**: the postings of a term are the documents that carry it.
* **`MemorySegment.mem_termsFrom`**, **`MemorySegment.pairwise_termsFrom`**: the dictionary from a
  term on is the ascending list of its terms that are not below that term.
* **`MemorySegment.mem_keys_of_carries`**: a term that a document carries is in the dictionary.
-/

namespace UsageIndex

/-- A document of a list carries a term. -/
def Carries (docs : List (List Term)) (i : Nat) (t : Term) : Prop :=
  ∃ ts, docs[i]? = some ts ∧ t ∈ ts

theorem Carries.lt {docs : List (List Term)} {i : Nat} {t : Term} (h : Carries docs i t) :
    i < docs.length := by
  obtain ⟨ts, hts, -⟩ := h
  exact (List.getElem?_eq_some_iff.mp hts).1

theorem carries_cons_succ {docs : List (List Term)} {ts : List Term} {i : Nat} {t : Term} :
    Carries (ts :: docs) (i + 1) t ↔ Carries docs i t := by
  unfold Carries
  rw [List.getElem?_cons_succ]

theorem carries_cons_zero {docs : List (List Term)} {ts : List Term} {t : Term} :
    Carries (ts :: docs) 0 t ↔ t ∈ ts := by
  unfold Carries
  simp only [List.getElem?_cons_zero, Option.some.injEq, exists_eq_left']

/-! ## Adding documents -/

namespace MemorySegment

namespace Builder

/-- The documents that are recorded for a term. -/
def recorded (b : Builder) (t : Term) : List Nat := (b.dictionary.find? t).getD []

theorem mem_record {doc d : Nat} {docs : List Nat} : d ∈ record doc docs ↔ d = doc ∨ d ∈ docs := by
  unfold record
  by_cases h : docs.head? = some doc
  · rw [if_pos h]
    have hmem : doc ∈ docs := List.mem_of_mem_head? h
    constructor
    · exact .inr
    · rintro (rfl | hd)
      · exact hmem
      · exact hd
  · rw [if_neg h]
    exact List.mem_cons

/-- One document is recorded for its terms and for no other. -/
theorem mem_recorded_addDocument (b : Builder) (terms : List Term) (t : Term) (d : Nat) :
    d ∈ (b.addDocument terms).1.recorded t ↔ d ∈ b.recorded t ∨ d = b.nextDoc ∧ t ∈ terms := by
  unfold addDocument recorded
  simp only
  -- the map alone changes over the terms, the number of the document does not
  generalize b.dictionary = m, b.nextDoc = n
  induction terms generalizing m with
  | nil => simp
  | cons u us ih =>
    rw [List.foldl_cons, ih, OrderedMap.find?_alter, List.mem_cons]
    by_cases h : t = u
    · subst h
      rw [if_pos rfl, Option.getD_some, mem_record]
      constructor
      · rintro ((hd | hd) | hd)
        · exact .inr ⟨hd, .inl rfl⟩
        · exact .inl hd
        · exact .inr ⟨hd.1, .inr hd.2⟩
      · rintro (hd | ⟨hd, -⟩)
        · exact .inl (.inr hd)
        · exact .inl (.inl hd)
    · rw [if_neg h]
      simp only [h, false_or]

theorem nextDoc_addDocuments (b : Builder) (docs : List (List Term)) :
    (b.addDocuments docs).nextDoc = b.nextDoc + docs.length := by
  induction docs generalizing b with
  | nil => rfl
  | cons ts docs ih =>
    have h := ih (b.addDocument ts).1
    have hn : (b.addDocument ts).1.nextDoc = b.nextDoc + 1 := rfl
    rw [hn] at h
    rw [List.length_cons]
    unfold addDocuments at h ⊢
    rw [List.foldl_cons, h]
    omega

/-- Documents are numbered in the order in which they are added. -/
theorem mem_recorded_addDocuments (b : Builder) (docs : List (List Term)) (t : Term) (d : Nat) :
    d ∈ (b.addDocuments docs).recorded t ↔
      d ∈ b.recorded t ∨ ∃ i, d = b.nextDoc + i ∧ Carries docs i t := by
  induction docs generalizing b with
  | nil => simp [addDocuments, Carries]
  | cons ts docs ih =>
    have h := ih (b.addDocument ts).1
    have hn : (b.addDocument ts).1.nextDoc = b.nextDoc + 1 := rfl
    rw [mem_recorded_addDocument, hn] at h
    unfold addDocuments at h ⊢
    rw [List.foldl_cons, h]
    constructor
    · rintro ((hd | ⟨hd, ht⟩) | ⟨i, hd, hi⟩)
      · exact .inl hd
      · exact .inr ⟨0, hd, carries_cons_zero.mpr ht⟩
      · exact .inr ⟨i + 1, by omega, carries_cons_succ.mpr hi⟩
    · rintro (hd | ⟨i, hd, hi⟩)
      · exact .inl (.inl hd)
      · cases i with
        | zero => exact .inl (.inr ⟨hd, carries_cons_zero.mp hi⟩)
        | succ i => exact .inr ⟨i, by omega, carries_cons_succ.mp hi⟩

end Builder

/-! ## What a segment answers -/

@[simp] theorem maxDoc_ofDocuments (docs : List (List Term)) :
    (ofDocuments docs).maxDoc = docs.length := by
  unfold ofDocuments
  have h := Builder.nextDoc_addDocuments Builder.new docs
  exact h.trans (Nat.zero_add _)

/-- **The postings of a term are the documents that carry it.** -/
theorem mem_postings {docs : List (List Term)} {t : Term} {d : Nat} :
    d ∈ (ofDocuments docs).postings t ↔ Carries docs d t := by
  have h := Builder.mem_recorded_addDocuments Builder.new docs t d
  have hp : (ofDocuments docs).postings t =
      ((Builder.new.addDocuments docs).recorded t).reverse := by
    unfold ofDocuments postings Builder.build Builder.recorded
    rw [OrderedMap.find?_mapValues]
    cases (Builder.new.addDocuments docs).dictionary.find? t <;> rfl
  have hnew : Builder.new.recorded t = [] := rfl
  have hzero : Builder.new.nextDoc = 0 := rfl
  rw [hp, List.mem_reverse, h, hnew, hzero]
  simp only [List.not_mem_nil, Nat.zero_add, exists_eq_left', false_or]

theorem mem_keys_of_carries {docs : List (List Term)} {t : Term} {d : Nat}
    (h : Carries docs d t) : t ∈ (ofDocuments docs).dictionary.keys := by
  rw [← mem_postings] at h
  unfold postings at h
  rw [OrderedMap.mem_keys_iff]
  cases hf : (ofDocuments docs).dictionary.find? t with
  | none =>
    rw [hf] at h
    cases h
  | some ds => exact ⟨ds, rfl⟩

theorem mem_termsFrom {m : MemorySegment} {start t : Term} :
    t ∈ m.termsFrom start ↔ t ∈ m.dictionary.keys ∧ ¬ t < start :=
  mem_dropWhile_lt m.dictionary.pairwise_keys

theorem pairwise_termsFrom (m : MemorySegment) (start : Term) :
    (m.termsFrom start).Pairwise (· < ·) :=
  m.dictionary.pairwise_keys.sublist (List.dropWhile_sublist _)

end MemorySegment

end UsageIndex
