import Mathlib.Data.List.Dedup
import UsageIndex.Proofs.Postings
import UsageIndex.Proofs.SetRecipes

/-!
# Runs of a builder

A builder is called any number of times, and a call that fails leaves what it has marked before it
failed. So what a call does is told in two cases: if all of its documents are in span it marks them
and counts the new ones, and otherwise it marks those before the first that is out of span, and that
document is in the failure.

* **`DocSet.Builder.setEach_eq`**: marking a list is marking its documents one after the other.
* **`DocSet.Builder.count_mark`**: by how much the count grows.
* **`DocSet.Builder.answer_inSpan`**, **`DocSet.Builder.answer_outOfSpan`**: the answer of a call.
* **`DocSet.Builder.run_accounts`**: what is held and answered in the course of any calls.
-/

namespace UsageIndex.DocSet.Builder

variable {b b' : Builder} {docs : List Nat} {c : Call}

/-! ## One document after the other -/

/-- Builders of one span that hold the same documents are equal. -/
theorem ext (hspan : b.span = b'.span) (h : ∀ d, b.held.contains d = b'.held.contains d) :
    b = b' := by
  have hheld : b.held = b'.held := DocSet.ext hspan h
  cases b
  cases b'
  cases hheld
  rfl

/-- Marks the documents of a list one after the other. The answer is the first that is out of span,
where the marking ends. -/
def setEach (b : Builder) : List Nat → Builder × Option Nat
  | [] => (b, none)
  | d :: ds =>
    match b.set d with
    | .ok (b', _) => b'.setEach ds
    | .error _ => (b, some d)

theorem set_of_lt {d : Nat} (h : d < b.span) :
    b.set d = .ok (b.mark [d], !b.held.contains d) := if_pos h

theorem set_of_le {d : Nat} (h : b.span ≤ d) : b.set d = .error (.outOfSpan d b.span) :=
  if_neg (Nat.not_lt.mpr h)

theorem mark_nil (b : Builder) : b.mark [] = b :=
  ext (span_mark b []) fun d => by simp [contains_mark]

theorem mark_cons (b : Builder) (d : Nat) (ds : List Nat) :
    b.mark (d :: ds) = (b.mark [d]).mark ds := by
  refine ext ?_ fun e => ?_
  · rw [span_mark, span_mark, span_mark]
  · rw [contains_mark, contains_mark, contains_mark, span_mark, Bool.or_assoc,
      ← Bool.and_or_distrib_right]
    simp

/-- **Marking a list** is marking its documents one after the other, up to the first that is out of
span. -/
theorem setEach_eq (b : Builder) (docs : List Nat) :
    b.setEach docs = (b.mark (b.inSpan docs), b.firstOutOfSpan? docs) := by
  induction docs generalizing b with
  | nil => exact congrArg (·, none) (mark_nil b).symm
  | cons d ds ih =>
    unfold setEach
    by_cases hd : d < b.span
    · have hin : b.inSpan (d :: ds) = d :: (b.mark [d]).inSpan ds := by
        unfold inSpan
        rw [List.takeWhile_cons_of_pos (by simpa using hd), span_mark]
      have hfirst : b.firstOutOfSpan? (d :: ds) = (b.mark [d]).firstOutOfSpan? ds := by
        unfold firstOutOfSpan?
        rw [List.find?_cons_of_neg (by simpa using hd), span_mark]
      simp only [set_of_lt hd, ih, hin, hfirst, ← mark_cons]
    · have hd := Nat.le_of_not_lt hd
      have hin : b.inSpan (d :: ds) = [] := by
        unfold inSpan
        rw [List.takeWhile_cons_of_neg (by simpa using hd)]
      have hfirst : b.firstOutOfSpan? (d :: ds) = some d :=
        firstOutOfSpan?_eq_some_iff.mpr ⟨[], ds, rfl, by simp, hd⟩
      simp only [set_of_le hd, hin, hfirst, mark_nil]

/-! ## Counting -/

/-- The documents of a list that are not in a set, each once. -/
def fresh (s : DocSet) (docs : List Nat) : List Nat := (docs.filter fun d => !s.contains d).dedup

theorem mem_fresh {s : DocSet} {d : Nat} : d ∈ fresh s docs ↔ d ∈ docs ∧ s.contains d = false := by
  simp [fresh]

/-- **The count grows** by the number of new documents. -/
theorem count_mark (h : ∀ d ∈ docs, d < b.span) :
    (b.mark docs).count = b.count + (fresh b.held docs).length := by
  -- the two lists hold the same documents, each once, in different orders
  have hperm : (b.mark docs).held.toList.Perm (b.held.toList ++ fresh b.held docs) := by
    refine (List.perm_ext_iff_of_nodup ?_ ?_).mpr fun d => ?_
    · exact (pairwise_toList _).imp Nat.ne_of_lt
    · refine List.Nodup.append ((pairwise_toList _).imp Nat.ne_of_lt) (List.nodup_dedup _) ?_
      intro d hd hd'
      rw [mem_toList] at hd
      rw [mem_fresh, hd] at hd'
      cases hd'.2
    · rw [List.mem_append, mem_toList, mem_toList, mem_fresh, ← Bool.not_eq_true]
      refine (contains_build_mark h d).trans ?_
      unfold build
      tauto
  unfold count
  rw [count_eq_length, count_eq_length, hperm.length_eq, List.length_append]

/-! ## Answers -/

/-- What a call answers that succeeds. -/
inductive Answer where
  /-- Whether the document was not held before. -/
  | isNew (new : Bool)
  /-- How many documents were not held before. -/
  | newlyHeld (n : Nat)
  deriving DecidableEq

/-- What a call answers. -/
def answer (b : Builder) : Call → Except Failure Answer
  | .set d => orViolation (b.set d) |>.map fun r => .isNew r.2
  | .extend docs => orViolation (b.extend docs).2 |>.map .newlyHeld
  | .tryExtend docs => orError (b.tryExtend docs).2 |>.map .newlyHeld

/-- What a call is to answer beside a set that is held, if all of its documents are in span. -/
def Call.success (s : DocSet) : Call → Answer
  | .set d => .isNew (!s.contains d)
  | .extend docs | .tryExtend docs => .newlyHeld (fresh s docs).length

/-- How a call is to fail at a document that is out of span. -/
def Call.failure (span d : Nat) : Call → Failure
  | .set _ | .extend _ => .violation (.outOfSpan d span)
  | .tryExtend _ => .error (.invalidFormat "postings" (outOfSpanText d span))

theorem extend_inSpan (h : ∀ d ∈ docs, d < b.span) :
    b.extend docs = (b.mark docs, .ok (fresh b.held docs).length) := by
  unfold extend
  rw [firstOutOfSpan?_eq_none_iff.mpr h, inSpan_of_forall_lt h]
  simp only [count_mark h, Nat.add_sub_cancel_left]

theorem tryExtend_inSpan (h : ∀ d ∈ docs, d < b.span) :
    b.tryExtend docs = (b.mark docs, .ok (fresh b.held docs).length) := by
  unfold tryExtend
  rw [firstOutOfSpan?_eq_none_iff.mpr h, inSpan_of_forall_lt h]
  simp only [count_mark h, Nat.add_sub_cancel_left]

/-- **A call in span** tells which of its documents are new. -/
theorem answer_inSpan (h : ∀ d ∈ c.docs, d < b.span) : b.answer c = .ok (c.success b.held) := by
  cases c with
  | set d =>
    have hd : d < b.span := h d List.mem_cons_self
    simp only [answer, set_of_lt hd]
    rfl
  | extend docs =>
    have h : ∀ d ∈ docs, d < b.span := h
    simp only [answer, extend_inSpan h]
    rfl
  | tryExtend docs =>
    have h : ∀ d ∈ docs, d < b.span := h
    simp only [answer, tryExtend_inSpan h]
    rfl

/-- **A call out of span** fails at its first document that is out of span. -/
theorem answer_outOfSpan {d : Nat} (h : b.firstOutOfSpan? c.docs = some d) :
    b.answer c = .error (c.failure b.span d) := by
  cases c with
  | set e =>
    obtain ⟨he, hle⟩ := mem_of_firstOutOfSpan?_eq_some h
    have he : d = e := List.mem_singleton.mp he
    subst he
    simp only [answer, set_of_le hle]
    rfl
  | extend docs =>
    have h : b.firstOutOfSpan? docs = some d := h
    simp only [answer, extend, h]
    rfl
  | tryExtend docs =>
    have h : b.firstOutOfSpan? docs = some d := h
    simp only [answer, tryExtend, h]
    rfl

theorem answer_eq_error_iff : (∃ f, b.answer c = .error f) ↔ ∃ d ∈ c.docs, b.span ≤ d := by
  cases h : b.firstOutOfSpan? c.docs with
  | none =>
    have hlt := firstOutOfSpan?_eq_none_iff.mp h
    rw [answer_inSpan hlt]
    simp only [reduceCtorEq, exists_false, false_iff, not_exists, not_and, Nat.not_le]
    exact hlt
  | some d =>
    rw [answer_outOfSpan h]
    simp only [Except.error.injEq, exists_eq', true_iff]
    exact ⟨d, mem_of_firstOutOfSpan?_eq_some h⟩

/-! ## Any calls -/

/-- **A builder accounts for every document.** After any calls it is of its span and holds what each
of them has marked. The next call, if all of its documents are in span, adds them and tells how many
of them, or whether its one, were not held; otherwise it adds those before the first that is out of
span and fails with that document: it reports an error in the data if it was told to try, and breaks
a precondition if not. So it fails exactly if one of its documents is out of span. Marking a list is
marking its documents one after the other. -/
theorem run_accounts (span : Nat) (calls : List Call) (c : Call) :
    let b := (new span).run calls
    (new span).run (calls ++ [c]) = b.after c ∧ b.build.span = span ∧
    (∀ d, b.build.contains d = true ↔ ∃ c ∈ calls, d ∈ c.marks span) ∧
    ((∀ d ∈ c.docs, d < span) → b.answer c = .ok (c.success b.build) ∧
      ∀ d, (b.after c).build.contains d = true ↔ b.build.contains d = true ∨ d ∈ c.docs) ∧
    (∀ before d after, c.docs = before ++ d :: after → (∀ x ∈ before, x < span) → span ≤ d →
      b.answer c = .error (c.failure span d) ∧
      ∀ x, (b.after c).build.contains x = true ↔ b.build.contains x = true ∨ x ∈ before) ∧
    ((∃ f, b.answer c = .error f) ↔ ∃ d ∈ c.docs, span ≤ d) ∧
    ∀ docs, b.after (.extend docs) = (b.setEach docs).1 ∧
      b.after (.tryExtend docs) = (b.setEach docs).1 := by
  intro b
  have hspan : b.span = span := (run_spec (new span) calls).1
  have hafter := (after_spec b c).2
  -- what a call marks ends where it fails, so both cases are read off the same documents
  have hmarks : c.marks b.span = b.inSpan c.docs := rfl
  refine ⟨List.foldl_append, hspan, fun d => ?_, fun h => ?_,
    fun before d after hdocs hbefore hd => ?_, ?_, fun docs => ?_⟩
  · refine ((run_spec (new span) calls).2 d).trans (or_iff_right ?_)
    exact Bool.false_ne_true
  · rw [← hspan] at h
    refine ⟨answer_inSpan h, fun d => ?_⟩
    rw [← inSpan_of_forall_lt h, ← hmarks]
    exact hafter d
  · rw [← hspan] at hbefore hd
    have hfirst : b.firstOutOfSpan? c.docs = some d :=
      firstOutOfSpan?_eq_some_iff.mpr ⟨before, after, hdocs, hbefore, hd⟩
    refine ⟨hspan ▸ answer_outOfSpan hfirst, fun x => ?_⟩
    have hin : b.inSpan c.docs = before := by rw [hdocs, inSpan_append_cons hbefore hd]
    rw [← hin, ← hmarks]
    exact hafter x
  · rw [answer_eq_error_iff, hspan]
  · rw [after_extend, after_tryExtend, setEach_eq]
    exact ⟨rfl, rfl⟩

theorem run_accounts_partly :
    let b := (new 4).run [.extend [1, 2], .tryExtend [2, 5, 0], .set 7]
    b.answer (.extend [3, 2, 3, 0]) = .ok (.newlyHeld 2) ∧
      b.answer (.tryExtend [0, 9, 3]) =
        .error (.error (.invalidFormat "postings" "doc id 9 out of span 4")) ∧
      (b.after (.tryExtend [0, 9, 3])).build.contains 0 = true := by
  intro b
  obtain ⟨-, -, hheld, hsuccess, -⟩ :=
    run_accounts 4 [.extend [1, 2], .tryExtend [2, 5, 0], .set 7] (.extend [3, 2, 3, 0])
  obtain ⟨-, -, -, -, hfailure, -⟩ :=
    run_accounts 4 [.extend [1, 2], .tryExtend [2, 5, 0], .set 7] (.tryExtend [0, 9, 3])
  have h0 : b.build.contains 0 = false := Bool.eq_false_iff.mpr fun h => by
    have hmarked := (hheld 0).mp h
    revert hmarked
    decide
  have h3 : b.build.contains 3 = false := Bool.eq_false_iff.mpr fun h => by
    have hmarked := (hheld 3).mp h
    revert hmarked
    decide
  have h2 : b.build.contains 2 = true := (hheld 2).mpr (by decide)
  have hfresh : fresh b.build [3, 2, 3, 0] = [3, 0] := by simp [fresh, h0, h2, h3]
  obtain ⟨hanswer, hafter⟩ := hfailure [0] 9 [3] rfl (by decide) (by decide)
  have hnew : (Call.extend [3, 2, 3, 0]).success b.build = .newlyHeld 2 :=
    congrArg (fun ds : List Nat => Answer.newlyHeld ds.length) hfresh
  exact ⟨(hsuccess (by decide)).1.trans (congrArg Except.ok hnew), hanswer,
    (hafter 0).mpr (.inr (by decide))⟩

end UsageIndex.DocSet.Builder
