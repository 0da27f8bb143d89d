import UsageIndex.Proofs.Memory

/-!
# Recording documents

A builder compares the number of a document only with the newest one that is recorded for a term.
That is enough to record a document once for each of its terms, wherever they stand in it, because
the newest document is the one with the greatest number.

* **`MemorySegment.Builder.Descends`**, **`MemorySegment.Builder.Sound`**: what holds of the
  documents recorded for a term, and of a builder. **`Builder.sound_addDocument`**: one document
  keeps it. **`Builder.sound_addDocuments`**: so do any.
* **`MemorySegment.addEach_records`**: what a segment in memory answers, for any documents.
-/

namespace UsageIndex.MemorySegment

namespace Builder

/-! ## Numbers of documents -/

/-- Adds documents in order. The answers are their numbers. -/
def addEach (b : Builder) : List (List Term) → Builder × List Nat
  | [] => (b, [])
  | terms :: docs =>
    let added := b.addDocument terms
    let rest := addEach added.1 docs
    (rest.1, added.2 :: rest.2)

/-- Documents get consecutive numbers. -/
theorem addEach_eq (b : Builder) (docs : List (List Term)) :
    b.addEach docs = (b.addDocuments docs, List.range' b.nextDoc docs.length) := by
  induction docs generalizing b with
  | nil => rfl
  | cons terms docs ih =>
    have hnext : (b.addDocument terms).1.nextDoc = b.nextDoc + 1 := rfl
    rw [addEach, ih, hnext, List.length_cons, List.range'_succ]
    rfl

/-! ## Recorded documents -/

/-- The documents recorded for a term, the newest first: there is one, each is recorded once, and
all have numbers below `n`. -/
structure Descends (n : Nat) (docs : List Nat) : Prop where
  nonempty : docs ≠ []
  descending : docs.Pairwise (· > ·)
  lt : ∀ d ∈ docs, d < n

theorem Descends.mono {m n : Nat} {docs : List Nat} (h : Descends m docs) (hmn : m ≤ n) :
    Descends n docs :=
  ⟨h.nonempty, h.descending, fun d hd => Nat.lt_of_lt_of_le (h.lt d hd) hmn⟩

theorem descends_singleton (n : Nat) : Descends (n + 1) [n] :=
  ⟨List.cons_ne_nil n [], List.pairwise_singleton _ n, fun _ hd => by
    rw [List.mem_singleton.mp hd]
    exact Nat.lt_succ_self n⟩

/-- A document with the greatest number is recorded once. -/
theorem Descends.record {n : Nat} {docs : List Nat} (h : Descends (n + 1) docs) :
    Descends (n + 1) (record n docs) := by
  unfold Builder.record
  by_cases hhead : docs.head? = some n
  · rwa [if_pos hhead]
  · rw [if_neg hhead]
    -- where `n` does not come first all numbers are below it, since those behind the first are less
    have hbelow : ∀ d ∈ docs, d < n := by
      obtain ⟨e, rest, rfl⟩ := List.exists_cons_of_ne_nil h.nonempty
      have hne : e ≠ n := fun he => hhead (congrArg some he)
      have he : e < n + 1 := h.lt e List.mem_cons_self
      intro d hd
      rcases List.mem_cons.mp hd with rfl | hd
      · omega
      · have hde : e > d := (List.pairwise_cons.mp h.descending).1 d hd
        omega
    refine ⟨List.cons_ne_nil _ _, List.pairwise_cons.mpr ⟨hbelow, h.descending⟩, fun d hd => ?_⟩
    rcases List.mem_cons.mp hd with rfl | hd
    · exact Nat.lt_succ_self d
    · exact h.lt d hd

/-- The documents that a builder has recorded for each term have been recorded once and have got
their numbers from it. -/
def Sound (b : Builder) : Prop :=
  ∀ t docs, b.dictionary.find? t = some docs → Descends b.nextDoc docs

theorem sound_new : new.Sound := by
  intro t docs h
  cases h

/-- **One document** is recorded once for each of its terms. -/
theorem sound_addDocument {b : Builder} (h : b.Sound) (terms : List Term) :
    (b.addDocument terms).1.Sound := by
  have hall : ∀ t docs, b.dictionary.find? t = some docs → Descends (b.nextDoc + 1) docs :=
    fun t docs ht => (h t docs ht).mono (Nat.le_succ _)
  unfold addDocument Sound
  simp only
  -- the invariant is that of the map while the number of the document stays
  generalize b.dictionary = m, b.nextDoc = n at hall
  induction terms generalizing m with
  | nil => exact hall
  | cons u us ih =>
    rw [List.foldl_cons]
    refine ih _ fun t docs ht => ?_
    rw [OrderedMap.find?_alter] at ht
    by_cases htu : t = u
    · rw [if_pos htu, Option.some.injEq] at ht
      rw [← ht]
      cases hu : m.find? u with
      | none => exact descends_singleton n
      | some old => exact (hall u old hu).record
    · rw [if_neg htu] at ht
      exact hall t docs ht

/-- **Any documents** are recorded once for each of their terms. -/
theorem sound_addDocuments {b : Builder} (h : b.Sound) (docs : List (List Term)) :
    (b.addDocuments docs).Sound := by
  induction docs generalizing b with
  | nil => exact h
  | cons terms docs ih => exact ih (sound_addDocument h terms)

end Builder

/-! ## Dictionaries and postings -/

/-- What a segment keeps for a term is the reverse of what was recorded. -/
theorem descends_of_find? {docs : List (List Term)} {t : Term} {ds : List Nat}
    (h : (ofDocuments docs).dictionary.find? t = some ds) :
    Builder.Descends docs.length ds.reverse := by
  have hsound := Builder.sound_addDocuments Builder.sound_new docs
  have hnext : (Builder.new.addDocuments docs).nextDoc = docs.length :=
    maxDoc_ofDocuments docs
  unfold ofDocuments Builder.build at h
  rw [OrderedMap.find?_mapValues, Option.map_eq_some_iff] at h
  obtain ⟨recorded, hrecorded, rfl⟩ := h
  rw [List.reverse_reverse, ← hnext]
  exact hsound t recorded hrecorded

theorem pairwise_postings (docs : List (List Term)) (t : Term) :
    ((ofDocuments docs).postings t).Pairwise (· < ·) := by
  unfold postings
  cases h : (ofDocuments docs).dictionary.find? t with
  | none => exact List.Pairwise.nil
  | some ds => exact List.pairwise_reverse.mp (descends_of_find? h).descending

/-- **The dictionary holds the terms that documents carry.** -/
theorem mem_keys_iff_carries {docs : List (List Term)} {t : Term} :
    t ∈ (ofDocuments docs).dictionary.keys ↔ ∃ d, Carries docs d t := by
  refine ⟨fun h => ?_, fun ⟨_, h⟩ => mem_keys_of_carries h⟩
  obtain ⟨ds, hds⟩ := OrderedMap.mem_keys_iff.mp h
  have hne : ds ≠ [] := fun he =>
    (descends_of_find? hds).nonempty (List.reverse_eq_nil_iff.mpr he)
  obtain ⟨d, hd⟩ := List.exists_mem_of_ne_nil ds hne
  refine ⟨d, mem_postings.mp ?_⟩
  unfold postings
  rwa [hds]

theorem mem_keys_iff {docs : List (List Term)} {t : Term} :
    t ∈ (ofDocuments docs).dictionary.keys ↔ ∃ ts ∈ docs, t ∈ ts := by
  rw [mem_keys_iff_carries]
  constructor
  · rintro ⟨d, ts, hts, ht⟩
    exact ⟨ts, List.mem_of_getElem? hts, ht⟩
  · rintro ⟨ts, hts, ht⟩
    obtain ⟨d, hd⟩ := List.mem_iff_getElem?.mp hts
    exact ⟨d, ts, hd, ht⟩

/-! ## Segments in memory -/

/-- **A segment in memory loses and invents nothing.** The documents are numbered in the order in
which they are added, and there are as many as were added. The postings of any term can be read;
they are ascending and hold the documents that carry the term. The dictionary holds the terms that
some document carries, and no empty postings; it can be read from any term on, and what is read is
ascending and holds its terms that are not below that term. -/
theorem addEach_records (docs : List (List Term)) :
    ∃ b, Builder.new.addEach docs = (b, List.range docs.length) ∧
      b.build.segment.maxDoc = docs.length ∧
      (∀ t, ∃ ds, b.build.segment.postings t = .ok ds ∧ ds.Pairwise (· < ·) ∧
        (∀ d ∈ ds, d < docs.length) ∧
        ∀ d, d ∈ ds ↔ ∃ terms, docs[d]? = some terms ∧ t ∈ terms) ∧
      (∀ t, t ∈ b.build.dictionary.keys ↔ ∃ terms ∈ docs, t ∈ terms) ∧
      (∀ t ds, (t, ds) ∈ b.build.dictionary.entries → ds ≠ []) ∧
      ∀ start, ∃ ts, b.build.segment.termsFrom start = .ok ts ∧ ts.Pairwise (· < ·) ∧
        ∀ t, t ∈ ts ↔ t ∈ b.build.dictionary.keys ∧ (start < t ∨ start = t) := by
  refine ⟨Builder.new.addDocuments docs, ?_, maxDoc_ofDocuments docs, fun t => ?_, fun t => ?_,
    fun t ds hds => ?_, fun start => ?_⟩
  · rw [Builder.addEach_eq, List.range_eq_range']
    rfl
  · refine ⟨(ofDocuments docs).postings t, rfl, pairwise_postings docs t, fun d hd => ?_,
      fun d => mem_postings⟩
    exact (mem_postings.mp hd).lt
  · refine mem_keys_iff_carries.trans ⟨?_, ?_⟩
    · rintro ⟨d, terms, hterms, ht⟩
      exact ⟨terms, List.mem_of_getElem? hterms, ht⟩
    · rintro ⟨terms, hterms, ht⟩
      obtain ⟨d, hd⟩ := List.mem_iff_getElem?.mp hterms
      exact ⟨d, terms, hd, ht⟩
  · have hfind : (ofDocuments docs).dictionary.find? t = some ds :=
      OrderedMap.mem_entries_iff.mp hds
    exact fun he => (descends_of_find? hfind).nonempty (List.reverse_eq_nil_iff.mpr he)
  · refine ⟨(ofDocuments docs).termsFrom start, rfl, pairwise_termsFrom _ start, fun t => ?_⟩
    refine mem_termsFrom.trans (and_congr_right fun _ => ⟨fun h => ?_, ?_⟩)
    · rcases StrictTotal.total start t with hlt | he | hlt
      · exact .inl hlt
      · exact .inr he
      · exact absurd hlt h
    · rintro (hlt | rfl)
      · exact StrictTotal.asymm hlt
      · exact StrictTotal.irrefl start

end UsageIndex.MemorySegment
