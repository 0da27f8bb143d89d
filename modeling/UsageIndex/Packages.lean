import UsageIndex.Segment

/-!
# Packages of an index

Which packages an index holds is read off the package field of the dictionary, by a walk over its
terms. A walk takes terms one by one and asks a step function, which may keep a state, what to do
with each: to yield a value, to go on without one, or to stop. A walk that has stopped, or has come
to the end of the terms, stays ended: it yields nothing more and looks at no further term.

Names may be cut to the first level below a leading text: a name is cut before the first dot behind
it, but the character right after it always belongs to the name.

* **`Walk.poll`**: the next value.
* **`Walk.drain`**: the values of several polls, up to the first that has none.
* **`Walk.run_start_cons`**: what a walk does by its first term.
* **`PackageNames.classify`**: what a term of the dictionary says.
* **`packageNames`**: the names, each once.
-/

namespace UsageIndex

/-! ## Walks over terms -/

/-- What to do with a term. -/
inductive TermStep (α : Type) where
  /-- The term yields a value. -/
  | produce (a : α)
  /-- The term is of no interest. -/
  | skip
  /-- The walk ends here. -/
  | stop
  deriving DecidableEq

/-- A walk over terms. -/
structure Walk (σ α : Type) where
  /-- What to do with a term, in a state. -/
  step : σ → Term → TermStep α × σ
  /-- The state of the step function. -/
  state : σ
  /-- The terms not looked at. -/
  rest : List Term
  /-- Whether the walk has ended. -/
  stopped : Bool

namespace Walk

variable {σ α : Type}

/-- A walk at its start. -/
def start (step : σ → Term → TermStep α × σ) (state : σ) (terms : List Term) : Walk σ α :=
  ⟨step, state, terms, false⟩

/-- Looks at terms up to the first that yields a value or stops; the answer is the value, the state
and the terms behind. -/
def advance (step : σ → Term → TermStep α × σ) (s : σ) : List Term → Option α × σ × List Term
  | [] => (none, s, [])
  | t :: ts =>
    match step s t with
    | (.produce a, s') => (some a, s', ts)
    | (.skip, s') => advance step s' ts
    | (.stop, s') => (none, s', ts)

/-- The next value, and the walk behind it. -/
def poll (w : Walk σ α) : Option α × Walk σ α :=
  if w.stopped then (none, w)
  else
    let r := advance w.step w.state w.rest
    (r.1, { w with state := r.2.1, rest := r.2.2, stopped := r.1.isNone })

/-- The values of at most `n` polls, up to the first that has none, and the walk behind them. -/
def drain : Nat → Walk σ α → List α × Walk σ α
  | 0, w => ([], w)
  | n + 1, w =>
    match w.poll with
    | (some a, w') =>
      let r := drain n w'
      (a :: r.1, r.2)
    | (none, w') => ([], w')

/-- All values of a walk, and the walk at its end. -/
def run (w : Walk σ α) : List α × Walk σ α := drain (w.rest.length + 1) w

variable {step : σ → Term → TermStep α × σ} {s s' : σ} {t : Term}

theorem drain_start_nil (step : σ → Term → TermStep α × σ) (s : σ) (n : Nat) :
    drain (n + 1) (start step s []) = ([], ⟨step, s, [], true⟩) := by
  simp [drain, poll, start, advance]

theorem drain_start_produce {a : α} (h : step s t = (.produce a, s')) (n : Nat) (ts : List Term) :
    drain (n + 1) (start step s (t :: ts)) =
      (a :: (drain n (start step s' ts)).1, (drain n (start step s' ts)).2) := by
  simp [drain, poll, start, advance, h]

theorem drain_start_skip (h : step s t = (.skip, s')) (n : Nat) (ts : List Term) :
    drain (n + 1) (start step s (t :: ts)) = drain (n + 1) (start step s' ts) := by
  have hpoll : (start step s (t :: ts)).poll = (start step s' ts).poll := by
    simp [poll, start, advance, h]
  rw [drain, drain, hpoll]

theorem drain_start_stop (h : step s t = (.stop, s')) (n : Nat) (ts : List Term) :
    drain (n + 1) (start step s (t :: ts)) = ([], ⟨step, s', ts, true⟩) := by
  simp [drain, poll, start, advance, h]

/-- A walk is at its end after one more poll than it has terms. -/
theorem drain_start_eq_run {n : Nat} {ts : List Term} (h : ts.length < n) :
    drain n (start step s ts) = (start step s ts).run := by
  induction ts generalizing n s with
  | nil =>
    obtain ⟨n, rfl⟩ := Nat.exists_eq_add_one_of_ne_zero (Nat.ne_of_gt h)
    exact (drain_start_nil step s n).trans (drain_start_nil step s 0).symm
  | cons t ts ih =>
    obtain ⟨n, rfl⟩ := Nat.exists_eq_add_one_of_ne_zero (Nat.ne_zero_of_lt h)
    have hn : ts.length < n := Nat.lt_of_succ_lt_succ h
    change _ = drain (ts.length + 1 + 1) (start step s (t :: ts))
    rcases hstep : step s t with ⟨a | _ | _, s'⟩
    · rw [drain_start_produce hstep, drain_start_produce hstep, ih hn]
      rfl
    · rw [drain_start_skip hstep, drain_start_skip hstep, ih (Nat.lt_succ_of_lt hn),
        ih (Nat.lt_succ_of_lt (Nat.lt_succ_self _))]
    · rw [drain_start_stop hstep, drain_start_stop hstep]

/-- A walk looks at its first term, and goes on as the step function says. -/
theorem run_start_cons (step : σ → Term → TermStep α × σ) (s : σ) (t : Term) (ts : List Term) :
    (start step s (t :: ts)).run =
      match step s t with
      | (.produce a, s') => (a :: (start step s' ts).run.1, (start step s' ts).run.2)
      | (.skip, s') => (start step s' ts).run
      | (.stop, s') => ([], ⟨step, s', ts, true⟩) := by
  change drain (ts.length + 1 + 1) (start step s (t :: ts)) = _
  rcases hstep : step s t with ⟨a | _ | _, s'⟩
  · exact drain_start_produce hstep _ _
  · rw [drain_start_skip hstep]
    exact drain_start_eq_run (Nat.lt_succ_of_lt (Nat.lt_succ_self _))
  · exact drain_start_stop hstep _ _

end Walk

/-- A step function without a state. -/
def pureStep {α : Type} (f : Term → TermStep α) (_ : Unit) (t : Term) : TermStep α × Unit :=
  (f t, ())

/-- The values of a walk whose step function keeps no state. -/
def walkTerms {α : Type} (f : Term → TermStep α) (terms : List Term) : List α :=
  (Walk.start (pureStep f) () terms).run.1

theorem walkTerms_nil {α : Type} (f : Term → TermStep α) : walkTerms f [] = [] := rfl

theorem walkTerms_cons {α : Type} (f : Term → TermStep α) (t : Term) (ts : List Term) :
    walkTerms f (t :: ts) =
      match f t with
      | .produce a => a :: walkTerms f ts
      | .skip => walkTerms f ts
      | .stop => [] := by
  unfold walkTerms
  rw [Walk.run_start_cons, pureStep]
  cases f t <;> rfl

/-! ## Package names -/

/-- Which package names are asked for. -/
structure PackageNames where
  /-- The package field. -/
  field : String
  /-- What the names begin with. -/
  leading : String
  /-- Whether names are cut to the first level below. -/
  directOnly : Bool
  deriving DecidableEq

namespace PackageNames

/-- The names at or under a leading text, or all names. -/
def under (field : String) (leading : Option String) (directOnly : Bool) : PackageNames :=
  ⟨field, leading.getD "", directOnly⟩

/-- The term that the walk over the dictionary starts at. -/
def startTerm (p : PackageNames) : Term := ⟨p.field, p.leading⟩

/-- Cuts a text before the first dot that has a character between it and the first `n`
characters. -/
def cutBelow (n : Nat) (cs : List Char) : List Char :=
  cs.take (n + 1) ++ (cs.drop (n + 1)).takeWhile (· != '.')

/-- The name that a text of the package field gives. -/
def nameOf (p : PackageNames) (text : String) : String :=
  if p.directOnly then String.ofList (cutBelow p.leading.toList.length text.toList) else text

/-- What a term says: a term of another field ends the walk, a text that begins otherwise is
skipped, and any other gives a name. -/
def classify (p : PackageNames) (t : Term) : TermStep String :=
  if t.field != p.field then .stop
  else if !Text.startsWith t.text p.leading then .skip
  else .produce (p.nameOf t.text)

end PackageNames

/-- The package names of a segment. -/
def packageNames (s : Segment) (p : PackageNames) : Except Error (OrderedSet String) :=
  match s.termsFrom p.startTerm with
  | .ok terms => .ok (OrderedSet.ofList (walkTerms p.classify terms))
  | .error e => .error e

end UsageIndex
