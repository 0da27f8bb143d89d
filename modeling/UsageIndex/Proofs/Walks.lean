import UsageIndex.Packages

/-!
# Polls of a walk

A walk that is polled again and again yields, one by one, the values of the terms before the first
at which it stops, and nothing from then on. A poll asks the step function about no more terms than
it needs for its answer. Which terms these are is told by the state of the step function, whatever
it keeps there: it is the state that they leave, each asked about once, in their order.

* **`Walk.told`**, **`Walk.stateAfter`**: what a step function says of some terms, one after
  another, and the state in which they leave it.
* **`TermStep.valuesBeforeStop`**: the values in front of the first stop.
* **`Walk.Passes`**: a walk has looked at some terms. **`Walk.Hears`**: what one poll is told.
* **`Walk.exists_passes_poll`**, **`Walk.exists_passes_after`**: what one poll and what several
  polls look at.
* **`Walk.polls_until_stop`**: the answers of any number of polls, and what they look at.
-/

namespace UsageIndex

/-! ## What terms say -/

namespace TermStep

variable {α : Type}

/-- The value that a term yields. -/
def value? : TermStep α → Option α
  | produce a => some a
  | _ => none

/-- Whether a walk ends at a term. -/
def isStop : TermStep α → Bool
  | stop => true
  | _ => false

/-- The values in front of the first stop. -/
def valuesBeforeStop (said : List (TermStep α)) : List α :=
  (said.takeWhile fun o => !o.isStop).filterMap value?

@[simp] theorem valuesBeforeStop_produce (a : α) (said : List (TermStep α)) :
    valuesBeforeStop (produce a :: said) = a :: valuesBeforeStop said := rfl

@[simp] theorem valuesBeforeStop_skip (said : List (TermStep α)) :
    valuesBeforeStop (skip :: said) = valuesBeforeStop said := rfl

@[simp] theorem valuesBeforeStop_stop (said : List (TermStep α)) :
    valuesBeforeStop (stop :: said) = [] := rfl

@[simp] theorem valuesBeforeStop_skips (n : Nat) (said : List (TermStep α)) :
    valuesBeforeStop (List.replicate n skip ++ said) = valuesBeforeStop said := by
  induction n with
  | zero => rfl
  | succ n ih => rwa [List.replicate_succ, List.cons_append, valuesBeforeStop_skip]

end TermStep

namespace Walk

open TermStep (valuesBeforeStop)

variable {σ α : Type}

/-- What a step function says of some terms, one after another. -/
def told (step : σ → Term → TermStep α × σ) (s : σ) : List Term → List (TermStep α)
  | [] => []
  | t :: ts => (step s t).1 :: told step (step s t).2 ts

/-- The state in which some terms leave a step function that is asked about each once, in order. -/
def stateAfter (step : σ → Term → TermStep α × σ) (s : σ) (ts : List Term) : σ :=
  ts.foldl (fun s t => (step s t).2) s

theorem told_append (step : σ → Term → TermStep α × σ) (s : σ) (ts us : List Term) :
    told step s (ts ++ us) = told step s ts ++ told step (stateAfter step s ts) us := by
  induction ts generalizing s with
  | nil => rfl
  | cons t ts ih =>
    rw [List.cons_append, told, ih]
    rfl

/-! ## One poll -/

/-- What a poll is told by the terms that it looks at, what it answers, and which terms it leaves.
Each term but the last is skipped, and the last yields the answer or stops the walk. If all are
skipped, no term is left. -/
inductive Hears : List (TermStep α) → Option α → List Term → Prop where
  | value (skipped : Nat) (a : α) (left : List Term) :
      Hears (List.replicate skipped .skip ++ [.produce a]) (some a) left
  | stopped (skipped : Nat) (left : List Term) :
      Hears (List.replicate skipped .skip ++ [.stop]) none left
  | atEnd (skipped : Nat) : Hears (List.replicate skipped .skip) none []

theorem Hears.skip {said : List (TermStep α)} {answer : Option α} {left : List Term}
    (h : Hears said answer left) : Hears (.skip :: said) answer left := by
  cases h with
  | value n a => exact .value (n + 1) a left
  | stopped n => exact .stopped (n + 1) left
  | atEnd n => exact .atEnd (n + 1)

/-- The terms that a search for the next value looks at, each once and in order. -/
theorem exists_advance (step : σ → Term → TermStep α × σ) (s : σ) (ts : List Term) :
    ∃ now, ts = now ++ (advance step s ts).2.2 ∧
      (advance step s ts).2.1 = stateAfter step s now ∧
      Hears (told step s now) (advance step s ts).1 (advance step s ts).2.2 := by
  induction ts generalizing s with
  | nil => exact ⟨[], rfl, rfl, .atEnd 0⟩
  | cons t ts ih =>
    rw [advance]
    rcases hstep : step s t with ⟨a | _ | _, s'⟩
    · refine ⟨[t], rfl, by simp [stateAfter, hstep], ?_⟩
      rw [told, hstep]
      exact .value 0 a ts
    · obtain ⟨now, hts, hstate, hhears⟩ := ih s'
      refine ⟨t :: now, congrArg _ hts, by simpa [stateAfter, hstep] using hstate, ?_⟩
      rw [told, hstep]
      exact hhears.skip
    · refine ⟨[t], rfl, by simp [stateAfter, hstep], ?_⟩
      rw [told, hstep]
      exact .stopped 0 ts

/-- `w.Passes seen w'`: from `w` to `w'` a walk has looked at the terms `seen`, each once and in
order. -/
structure Passes (w : Walk σ α) (seen : List Term) (w' : Walk σ α) : Prop where
  step : w'.step = w.step
  rest : w.rest = seen ++ w'.rest
  state : w'.state = stateAfter w.step w.state seen

variable {w w' w'' : Walk σ α} {seen now : List Term}

theorem Passes.refl (w : Walk σ α) : w.Passes [] w := ⟨rfl, rfl, rfl⟩

theorem Passes.trans (h : w.Passes seen w') (h' : w'.Passes now w'') :
    w.Passes (seen ++ now) w'' := by
  refine ⟨h'.step.trans h.step, by rw [h.rest, h'.rest, List.append_assoc], ?_⟩
  rw [h'.state, h.step, h.state]
  exact (List.foldl_append ..).symm

theorem poll_of_stopped (h : w.stopped = true) : w.poll = (none, w) := if_pos h

theorem poll_of_not_stopped (h : w.stopped = false) : w.poll =
    ((advance w.step w.state w.rest).1,
      { w with
        state := (advance w.step w.state w.rest).2.1
        rest := (advance w.step w.state w.rest).2.2
        stopped := (advance w.step w.state w.rest).1.isNone }) :=
  if_neg (Bool.eq_false_iff.mp h)

/-- **What a poll looks at**, unless the walk has ended: the terms up to the first that yields a
value or stops the walk. -/
theorem exists_passes_poll (h : w.stopped = false) : ∃ now, w.Passes now w.poll.2 ∧
    Hears (told w.step w.state now) w.poll.1 w.poll.2.rest := by
  obtain ⟨now, hrest, hstate, hhears⟩ := exists_advance w.step w.state w.rest
  rw [poll_of_not_stopped h]
  exact ⟨now, ⟨rfl, hrest, hstate⟩, hhears⟩

/-- A walk has ended once a poll has no value. -/
theorem stopped_poll (w : Walk σ α) : w.poll.2.stopped = w.poll.1.isNone := by
  cases h : w.stopped with
  | true => rw [poll_of_stopped h, h, Option.isNone_none]
  | false => rw [poll_of_not_stopped h]

/-! ## The values to come -/

/-- The values that a walk has still to yield. -/
def toCome (w : Walk σ α) : List α :=
  if w.stopped then [] else valuesBeforeStop (told w.step w.state w.rest)

/-- What a poll is told is followed by what the terms say that it leaves, unless it ends the
walk. -/
theorem Hears.valuesBeforeStop_append {said : List (TermStep α)} {answer : Option α}
    {left : List Term} (h : Hears said answer left) (step : σ → Term → TermStep α × σ) (s : σ) :
    valuesBeforeStop (said ++ told step s left) =
      answer.toList ++ if answer.isNone then [] else valuesBeforeStop (told step s left) := by
  cases h with
  | value n a => simp
  | stopped n => simp
  | atEnd n =>
    rw [told, TermStep.valuesBeforeStop_skips]
    rfl

/-- **What a poll answers**: the first of the values to come. The others are still to come. -/
theorem toCome_eq (w : Walk σ α) : w.toCome = w.poll.1.toList ++ w.poll.2.toCome := by
  cases h : w.stopped with
  | true =>
    rw [poll_of_stopped h]
    rfl
  | false =>
    obtain ⟨now, hpasses, hhears⟩ := exists_passes_poll h
    have hsaid : told w.step w.state w.rest =
        told w.step w.state now ++ told w.poll.2.step w.poll.2.state w.poll.2.rest := by
      rw [hpasses.step, hpasses.state, ← told_append, ← hpasses.rest]
    unfold toCome
    rw [h, if_neg Bool.false_ne_true, hsaid, hhears.valuesBeforeStop_append, stopped_poll]

theorem toCome_of_poll_none (h : w.poll.1 = none) : w.toCome = [] ∧ w.poll.2.toCome = [] := by
  have hstopped : w.poll.2.stopped = true := by rw [stopped_poll, h, Option.isNone_none]
  have hnone : w.poll.2.toCome = [] := if_pos hstopped
  exact ⟨by rw [toCome_eq, h, hnone]; rfl, hnone⟩

theorem poll_eq_head? (w : Walk σ α) : w.poll.1 = w.toCome.head? := by
  cases h : w.poll.1 with
  | none => rw [(toCome_of_poll_none h).1, List.head?_nil]
  | some a => rw [toCome_eq, h, Option.toList_some, List.singleton_append, List.head?_cons]

theorem toCome_poll (w : Walk σ α) : w.poll.2.toCome = w.toCome.tail := by
  cases h : w.poll.1 with
  | none => rw [(toCome_of_poll_none h).1, (toCome_of_poll_none h).2, List.tail_nil]
  | some a => rw [toCome_eq w, h, Option.toList_some, List.singleton_append, List.tail_cons]

/-- The values of several polls are the first of those to come. -/
theorem drain_eq_take (w : Walk σ α) (n : Nat) : (drain n w).1 = w.toCome.take n := by
  induction n generalizing w with
  | zero => rfl
  | succ n ih =>
    rw [drain]
    rcases h : w.poll with ⟨_ | a, w'⟩
    · rw [(toCome_of_poll_none (congrArg Prod.fst h)).1, List.take_nil]
    · rw [toCome_eq, h, Option.toList_some, List.singleton_append, List.take_succ_cons]
      exact congrArg (a :: ·) (ih w')

/-! ## Several polls -/

/-- The walk behind some polls. -/
def after (w : Walk σ α) : Nat → Walk σ α
  | 0 => w
  | n + 1 => (w.after n).poll.2

theorem toCome_after (w : Walk σ α) (n : Nat) : (w.after n).toCome = w.toCome.drop n := by
  induction n with
  | zero => rfl
  | succ n ih => rw [after, toCome_poll, ih, List.tail_drop]

/-- **What several polls look at**: some terms, each once and in order. -/
theorem exists_passes_after (w : Walk σ α) (n : Nat) : ∃ seen, w.Passes seen (w.after n) := by
  induction n with
  | zero => exact ⟨[], .refl w⟩
  | succ n ih =>
    obtain ⟨seen, hseen⟩ := ih
    cases h : (w.after n).stopped with
    | true => exact ⟨seen, by rwa [after, poll_of_stopped h]⟩
    | false =>
      obtain ⟨now, hnow, -⟩ := exists_passes_poll h
      exact ⟨seen ++ now, hseen.trans hnow⟩

/-- A walk that begins ends with the first poll for which there is no value. -/
theorem stopped_after_iff (h : w.stopped = false) (n : Nat) :
    (w.after n).stopped = true ↔ w.toCome.length < n := by
  cases n with
  | zero => simp [after, h]
  | succ n =>
    rw [after, stopped_poll, poll_eq_head?, toCome_after, List.head?_drop,
      Option.isNone_iff_eq_none, List.getElem?_eq_none_iff, Nat.lt_succ_iff]

/-- A walk that has ended stays as it is. -/
theorem after_of_stopped (h : w.stopped = true) (n : Nat) : w.after n = w := by
  induction n with
  | zero => rfl
  | succ n ih => rw [after, ih, poll_of_stopped h]

theorem after_add (w : Walk σ α) (n m : Nat) : w.after (n + m) = (w.after n).after m := by
  induction m with
  | zero => rfl
  | succ m ih => rw [← Nat.add_assoc, after, ih, after]

/-- **Polls of a walk.** Whatever a step function keeps and says of each term, the polls of a walk
answer one by one with the values in front of the first stop, and then with none. Each poll looks at
the terms behind those that were looked at before, each once and in order, up to the next that
yields a value or stops the walk. From the first poll without a value on, every poll answers
with none and leaves the walk as it is, whatever terms are left. -/
theorem polls_until_stop (step : σ → Term → TermStep α × σ) (s : σ) (ts : List Term) (n : Nat) :
    let w := start step s ts
    let values := valuesBeforeStop (told step s ts)
    (w.after n).poll.1 = values[n]? ∧
    (drain n w).1 = values.take n ∧
    (∃ seen now, w.Passes seen (w.after n) ∧ (w.after n).Passes now (w.after (n + 1)) ∧
      if n ≤ values.length then
        Hears (told step (w.after n).state now) (w.after n).poll.1 (w.after (n + 1)).rest
      else now = []) ∧
    ((w.after n).poll.1 = none → ∀ m, n < m → (w.after m).poll = (none, w.after (n + 1))) := by
  intro w values
  have hstopped : (w.after n).stopped = true ↔ values.length < n := stopped_after_iff rfl n
  refine ⟨?_, drain_eq_take w n, ?_, fun hnone m hm => ?_⟩
  · rw [poll_eq_head?, toCome_after, List.head?_drop]
    rfl
  · obtain ⟨seen, hseen⟩ := exists_passes_after w n
    cases h : (w.after n).stopped with
    | true =>
      refine ⟨seen, [], hseen, ?_, ?_⟩
      · rw [after, poll_of_stopped h]
        exact .refl _
      · rw [if_neg (Nat.not_le.mpr (hstopped.mp h))]
    | false =>
      obtain ⟨now, hnow, hhears⟩ := exists_passes_poll h
      refine ⟨seen, now, hseen, hnow, ?_⟩
      rw [if_pos (Nat.le_of_not_lt fun hlt => Bool.false_ne_true (h.symm.trans (hstopped.mpr hlt)))]
      rwa [hseen.step] at hhears
  · have hended : (w.after (n + 1)).stopped = true := by
      rw [after, stopped_poll, hnone, Option.isNone_none]
    obtain ⟨k, rfl⟩ := Nat.exists_eq_add_of_le hm
    rw [after_add, after_of_stopped hended, poll_of_stopped hended]

/-- A step function that counts the terms that it is asked about. -/
def countingStep (n : Nat) (t : Term) : TermStep String × Nat :=
  (if t.text = "skip" then .skip else if t.text = "stop" then .stop else .produce t.text, n + 1)

/-- A walk over five terms. The second poll passes over a term, and the third stops at another; from
then on four terms have been looked at, however often the walk is polled, and one is left. -/
theorem polls_until_stop_counting :
    let w := start countingStep 0 (["a", "skip", "b", "stop", "c"].map (Term.mk "p"))
    (w.after 1).poll.1 = some "b" ∧ (w.after 2).poll.1 = none ∧
      ∀ m, 2 < m → (w.after m).poll = (none, ⟨countingStep, 4, [⟨"p", "c"⟩], true⟩) := by
  intro w
  obtain ⟨hvalue, -⟩ := polls_until_stop countingStep 0 w.rest 1
  obtain ⟨hnone, -, -, hended⟩ := polls_until_stop countingStep 0 w.rest 2
  exact ⟨hvalue, hnone, hended hnone⟩

end Walk

end UsageIndex
