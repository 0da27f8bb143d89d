import UsageIndex.Error
import UsageIndex.Ordered.Flips

/-!
# Sets of documents

A `DocSet` is a set of document ids below a `span`, the document count of the segment it was
computed for. It is kept by its flips, so that a set of long runs is small and two sets with the
same span and the same members are equal.

A `DocSet.Builder` holds the documents marked so far, all below its span. Marking one document at
or beyond the span is a `Violation`. A list of documents is marked up to the first that is out of
span; the documents before it stay marked.

* **`DocSet.combine_spec`**, **`DocSet.contains_invert`**: what the operations do to membership.
  Union, intersection and difference are defined for two sets of one span only; other spans are a
  `Violation`.
* **`DocSet.ext`**: sets of one span with the same members are equal.
* **`DocSet.contains_ofDocs`**: ids at or above the span are left out.
* **`DocSet.Builder.contains_mark`**: what is held after a list is marked.
-/

namespace UsageIndex

/-- A set of document ids below a span. -/
structure DocSet where
  span : Nat
  flips : List Nat
  ascending : flips.Pairwise (· < ·)
  bounded : ∀ d, span ≤ d → Flips.memFrom false flips d = false

namespace DocSet

theorem eq_of_flips_eq {s t : DocSet} (hs : s.span = t.span) (hf : s.flips = t.flips) :
    s = t := by
  cases s; cases t; cases hs; cases hf; rfl

instance : DecidableEq DocSet := fun s t =>
  if h : s.span = t.span ∧ s.flips = t.flips then .isTrue (eq_of_flips_eq h.1 h.2)
  else .isFalse fun e => h ⟨by rw [e], by rw [e]⟩

/-- Whether a document is in the set. -/
def contains (s : DocSet) (d : Nat) : Bool := Flips.memFrom false s.flips d

/-- The maximal runs of consecutive ids, each as its first id and the id after its last. -/
def runs (s : DocSet) : List (Nat × Nat) := Flips.runs s.flips

/-- The number of documents. -/
def count (s : DocSet) : Nat := s.runs.foldl (fun n r => n + (r.2 - r.1)) 0

/-- Whether there are no documents. -/
def isEmpty (s : DocSet) : Bool := s.flips.isEmpty

/-- The ids, ascending. -/
def toList (s : DocSet) : List Nat := s.runs.flatMap fun r => List.range' r.1 (r.2 - r.1)

/-- The set without documents. -/
def empty (span : Nat) : DocSet := ⟨span, [], List.Pairwise.nil, fun _ _ => rfl⟩

/-- The set of all documents. -/
def full (span : Nat) : DocSet where
  span := span
  flips := if span = 0 then [] else [0, span]
  ascending := by
    split
    · exact List.Pairwise.nil
    · simp only [List.pairwise_cons, List.mem_singleton, forall_eq, List.not_mem_nil,
        false_implies, implies_true, List.Pairwise.nil, and_true]
      omega
  bounded d hd := by
    split
    · rfl
    · simp [Flips.memFrom, Nat.not_lt.mpr hd]

/-- The documents of a list that are below a span, descending. -/
def descending (span : Nat) (docs : List Nat) : List Nat :=
  (docs.filter fun d => decide (d < span)).mergeSort fun a b => decide (b ≤ a)

theorem pairwise_descending (span : Nat) (docs : List Nat) :
    (descending span docs).Pairwise (· ≥ ·) := by
  have h := @List.pairwise_mergeSort Nat (fun a b => decide (b ≤ a))
    (by simp only [decide_eq_true_eq]; omega)
    (by simp only [Bool.or_eq_true, decide_eq_true_eq]; omega)
    (docs.filter fun d => decide (d < span))
  exact h.imp fun h => by simpa using h

theorem mem_descending {span : Nat} {docs : List Nat} {d : Nat} :
    d ∈ descending span docs ↔ d ∈ docs ∧ d < span := by
  simp [descending]

/-- The documents of a list, those at or above the span left out. -/
def ofDocs (span : Nat) (docs : List Nat) : DocSet where
  span := span
  flips := Flips.ofDescending (descending span docs)
  ascending := Flips.pairwise_ofDescending (pairwise_descending span docs)
  bounded d hd := by
    rw [Flips.memFrom_ofDescending (pairwise_descending span docs), decide_eq_false_iff_not,
      mem_descending]
    omega

/-- The documents on whose membership in two sets of one span `op` answers yes. -/
def combine (op : Bool → Bool → Bool) (h : op false false = false) (s t : DocSet) :
    Except Violation DocSet :=
  if e : s.span = t.span then
    .ok {
      span := s.span
      flips := Flips.combine op false false s.flips t.flips
      ascending := Flips.pairwise_combine s.ascending t.ascending
      bounded := by
        intro d hd
        have := Flips.memFrom_combine op false false s.ascending
          t.ascending d
        rwa [h, s.bounded d hd, t.bounded d (e ▸ hd), h] at this }
  else .error (.spanMismatch s.span t.span)

/-- The documents of either of two sets of one span. -/
def union (s t : DocSet) : Except Violation DocSet := combine (· || ·) rfl s t

/-- The documents of both of two sets of one span. -/
def intersect (s t : DocSet) : Except Violation DocSet := combine (· && ·) rfl s t

/-- The documents of the first but not the second of two sets of one span. -/
def difference (s t : DocSet) : Except Violation DocSet := combine (fun x y => x && !y) rfl s t

/-- The documents below the span that are not in the set. -/
def invert (s : DocSet) : DocSet where
  span := s.span
  flips := Flips.combine (fun x y => !x && y) false false s.flips (full s.span).flips
  ascending := Flips.pairwise_combine s.ascending (full s.span).ascending
  bounded d hd := by
    have := Flips.memFrom_combine (fun x y => !x && y) false false
      s.ascending (full s.span).ascending d
    simpa [s.bounded d hd, (full s.span).bounded d hd] using this

/-- How a set is shown, its ids listed. -/
def shown (s : DocSet) : String :=
  "DocIdSet \x7b span: " ++ toString s.span ++ ", doc_ids: ["
    ++ ", ".intercalate (s.toList.map toString) ++ "] \x7d"

/-! ## Membership -/

@[simp] theorem contains_empty (span d : Nat) : (empty span).contains d = false := rfl

@[simp] theorem contains_full (span d : Nat) : (full span).contains d = decide (d < span) := by
  simp only [contains, full]
  by_cases h : span = 0
  · simp [Flips.memFrom, h]
  · rw [if_neg h]
    by_cases hd : d < span <;> simp [Flips.memFrom, hd]

theorem contains_ofDocs (span : Nat) (docs : List Nat) (d : Nat) :
    (ofDocs span docs).contains d = (decide (d ∈ docs) && decide (d < span)) := by
  simp only [contains, ofDocs]
  rw [Flips.memFrom_ofDescending (pairwise_descending span docs)]
  simp [mem_descending]

theorem contains_eq_false_of_span_le {s : DocSet} {d : Nat} (h : s.span ≤ d) :
    s.contains d = false := s.bounded d h

/-- Two sets of one span combine, and membership is the operation on the memberships. -/
theorem combine_spec {op : Bool → Bool → Bool} {h : op false false = false} {s t : DocSet}
    (e : s.span = t.span) :
    ∃ r, combine op h s t = .ok r ∧ r.span = s.span ∧
      ∀ d, r.contains d = op (s.contains d) (t.contains d) := by
  refine ⟨_, dif_pos e, rfl, ?_⟩
  intro d
  have := Flips.memFrom_combine op false false s.ascending t.ascending d
  rwa [h] at this

theorem contains_invert (s : DocSet) (d : Nat) :
    s.invert.contains d = (decide (d < s.span) && !s.contains d) := by
  have h := Flips.memFrom_combine (fun x y => !x && y) false false
    s.ascending (full s.span).ascending d
  have h' : s.invert.contains d = (!s.contains d && (full s.span).contains d) := by
    simpa [contains, invert] using h
  rw [h', contains_full, Bool.and_comm]

/-- Sets of one span with the same members are equal. -/
theorem ext {s t : DocSet} (hs : s.span = t.span) (h : ∀ d, s.contains d = t.contains d) :
    s = t :=
  eq_of_flips_eq hs (Flips.flips_ext s.ascending t.ascending h)

end DocSet

/-! ## Building sets -/

namespace DocSet

/-- The documents marked so far. -/
structure Builder where
  held : DocSet

namespace Builder

/-- A builder that holds no documents. -/
def new (span : Nat) : Builder := ⟨DocSet.empty span⟩

/-- The bound on the ids that may be marked. -/
def span (b : Builder) : Nat := b.held.span

/-- The number of documents held. -/
def count (b : Builder) : Nat := b.held.count

/-- Holds the documents of a list too, those at or above the span left out. -/
def mark (b : Builder) (docs : List Nat) : Builder :=
  match b.held.union (ofDocs b.span docs) with
  | .ok s => ⟨s⟩
  | .error _ => b

/-- The documents of a list before the first that is out of span. -/
def inSpan (b : Builder) (docs : List Nat) : List Nat := docs.takeWhile fun d => decide (d < b.span)

/-- The first document of a list that is out of span. -/
def firstOutOfSpan? (b : Builder) (docs : List Nat) : Option Nat :=
  docs.find? fun d => decide (b.span ≤ d)

/-- Marks one document; the answer tells whether it was not held before. -/
def set (b : Builder) (d : Nat) : Except Violation (Builder × Bool) :=
  if d < b.span then .ok (b.mark [d], !b.held.contains d) else .error (.outOfSpan d b.span)

/-- Marks the documents of a list, up to the first that is out of span, which is a violation. The
answer is the number of documents that were not held before. -/
def extend (b : Builder) (docs : List Nat) : Builder × Except Violation Nat :=
  let b' := b.mark (b.inSpan docs)
  match b.firstOutOfSpan? docs with
  | some d => (b', .error (.outOfSpan d b.span))
  | none => (b', .ok (b'.count - b.count))

/-- Marks the documents of a postings list that was read, up to the first that is out of span,
which is an error in the data. The answer is the number of documents that were not held before. -/
def tryExtend (b : Builder) (docs : List Nat) : Builder × Except Error Nat :=
  let b' := b.mark (b.inSpan docs)
  match b.firstOutOfSpan? docs with
  | some d => (b', .error (.invalidFormat "postings" (outOfSpanText d b.span)))
  | none => (b', .ok (b'.count - b.count))

/-- Adds the documents of a postings list, or reports the first that is out of span. -/
def addPostings (b : Builder) (docs : List Nat) : Except Error Builder :=
  match b.tryExtend docs with
  | (b', .ok _) => .ok b'
  | (_, .error e) => .error e

/-- The set of the documents held. -/
def build (b : Builder) : DocSet := b.held

/-! ## What is held -/

theorem mark_spec (b : Builder) (docs : List Nat) :
    (b.mark docs).span = b.span ∧ ∀ d, (b.mark docs).held.contains d =
      (b.held.contains d || (decide (d ∈ docs) && decide (d < b.span))) := by
  obtain ⟨r, hr, hs, hc⟩ := @combine_spec (· || ·) rfl b.held (ofDocs b.span docs) rfl
  have hm : b.mark docs = ⟨r⟩ := by
    unfold mark
    split
    · rename_i s h
      have : Except.ok s = Except.ok (ε := Violation) r := h.symm.trans hr
      cases this
      rfl
    · rename_i v h
      have : Except.error (α := DocSet) v = Except.ok r := h.symm.trans hr
      cases this
  rw [hm]
  refine ⟨hs, ?_⟩
  intro d
  rw [hc, contains_ofDocs]

/-- **Marking.** A builder holds what it held and the marked documents below its span. -/
theorem contains_mark (b : Builder) (docs : List Nat) (d : Nat) :
    (b.mark docs).held.contains d =
      (b.held.contains d || (decide (d ∈ docs) && decide (d < b.span))) :=
  (mark_spec b docs).2 d

@[simp] theorem span_mark (b : Builder) (docs : List Nat) : (b.mark docs).span = b.span :=
  (mark_spec b docs).1

end Builder

end DocSet

end UsageIndex
