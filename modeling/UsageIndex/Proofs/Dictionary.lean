import UsageIndex.Proofs.Memory
import UsageIndex.Proofs.Postings

/-!
# Runs of the dictionary

A search reads the dictionary from a term on and stops at the first term that leaves the field or
the leading text. In an ascending list this loses nothing: the terms of the run stand together,
right at the start of what is read.

* **`prefix_of_between`**: a text between a text and one that begins with it begins with it too.
* **`inRun_of_between`**: so does a term, in its field.
* **`MemorySegment.mem_acceptedRun`**: what a search adds of a segment in memory.
-/

namespace UsageIndex

/-! ## Texts -/

/-- A text at or above `p` that is below a text which begins with `p` begins with `p`. -/
theorem prefix_of_between {p x z : List Char} (hp : ¬ x < p) (hz : x < p ++ z) : p <+: x := by
  induction p generalizing x with
  | nil => exact List.nil_prefix
  | cons c p ih =>
    cases x with
    | nil => exact absurd (List.nil_lt_cons c p) hp
    | cons d x =>
      rw [List.cons_append, List.cons_lt_cons_iff] at hz
      rw [List.cons_lt_cons_iff, not_or, not_and] at hp
      obtain ⟨hdc, hxp⟩ := hp
      rcases hz with hlt | ⟨rfl, hlt⟩
      · exact absurd hlt hdc
      · exact (List.prefix_cons_inj d).mpr (ih (hxp rfl) hlt)

/-- A text that begins with `p` is not below `p`. -/
theorem not_lt_of_prefix {p x : List Char} (h : p <+: x) : ¬ x < p := by
  induction p generalizing x with
  | nil => exact List.not_lt_nil x
  | cons c p ih =>
    obtain ⟨z, rfl⟩ := h
    rw [List.cons_append, List.cons_lt_cons_iff, not_or, not_and]
    exact ⟨Char.lt_irrefl c, fun _ => ih (List.prefix_append p z)⟩

/-! ## Terms -/

theorem not_lt_of_inRun {start t : Term} (h : InRun start t) : ¬ t < start := by
  obtain ⟨hf, ht⟩ := h
  rw [Term.lt_def, hf, not_or, not_and]
  refine ⟨String.lt_irrefl _, ?_⟩
  intro _ hlt
  exact not_lt_of_prefix (Text.startsWith_iff.mp ht) (String.lt_iff.mp hlt)

/-- A term from `start` on that is below a term of the run of `start` lies in the run. -/
theorem inRun_of_between {start t u : Term} (ht : ¬ t < start) (htu : t < u) (hu : InRun start u) :
    InRun start t := by
  obtain ⟨huf, hux⟩ := hu
  obtain ⟨z, hz⟩ := Text.startsWith_iff.mp hux
  rw [Term.lt_def, not_or, not_and] at ht
  rcases htu with hlt | ⟨hf, hlt⟩
  · exact absurd (huf ▸ hlt) ht.1
  · have hfield : t.field = start.field := hf.trans huf
    have hbelow : t.text.toList < start.text.toList ++ z := hz ▸ String.lt_iff.mp hlt
    exact ⟨hfield, Text.startsWith_iff.mpr (prefix_of_between (ht.2 hfield) hbelow)⟩

/-- What holds further on and is passed on towards the front is kept by `takeWhile`. -/
theorem mem_takeWhile_of_pairwise {α : Type} {P : α → Prop} [DecidablePred P] {l : List α} {x : α}
    (h : l.Pairwise fun y z => P z → P y) :
    x ∈ l.takeWhile (fun y => decide (P y)) ↔ x ∈ l ∧ P x := by
  induction l with
  | nil => simp
  | cons a l ih =>
    rw [List.pairwise_cons] at h
    by_cases ha : P a
    · rw [List.takeWhile_cons_of_pos (by simpa using ha), List.mem_cons, List.mem_cons, ih h.2]
      constructor
      · rintro (rfl | hx)
        · exact ⟨.inl rfl, ha⟩
        · exact ⟨.inr hx.1, hx.2⟩
      · rintro ⟨rfl | hx, hP⟩
        · exact .inl rfl
        · exact .inr ⟨hx, hP⟩
    · rw [List.takeWhile_cons_of_neg (by simpa using ha)]
      simp only [List.not_mem_nil, List.mem_cons, false_iff, not_and]
      rintro (rfl | hx) hP
      · exact ha hP
      · exact ha (h.1 x hx hP)

/-! ## Segments in memory -/

namespace MemorySegment

/-- **A search reads the whole run and nothing else.** -/
theorem mem_acceptedRun {m : MemorySegment} {start t : Term} {accept : String → Bool} :
    t ∈ acceptedRun start accept (m.termsFrom start) ↔
      t ∈ m.dictionary.keys ∧ InRun start t ∧ accept t.text = true := by
  have hpass : (m.termsFrom start).Pairwise fun t u => InRun start u → InRun start t :=
    List.Pairwise.imp_of_mem
      (fun ht _ htu hu => inRun_of_between (mem_termsFrom.mp ht).2 htu hu)
      (m.pairwise_termsFrom start)
  unfold acceptedRun
  rw [List.mem_filter, mem_takeWhile_of_pairwise hpass, mem_termsFrom]
  constructor
  · rintro ⟨⟨⟨hk, -⟩, hr⟩, ha⟩
    exact ⟨hk, hr, ha⟩
  · rintro ⟨hk, hr, ha⟩
    exact ⟨⟨⟨hk, not_lt_of_inRun hr⟩, hr⟩, ha⟩

end MemorySegment

end UsageIndex
