import UsageIndex.Pattern.Expr

/-!
# Search

How a text is searched for an expression. The places of a text lie before its first character,
between two of its characters, and behind its last; they are counted from zero. An expression moves
sets of places: from the places where it may begin to the places where it may end. A set, kept as
the bits of a number, is moved as a whole, so that the work does not depend on the number of ways in
which an expression consumes a text.

* **`Places.mem_marks`**: `marks` collects the places at which a list says `true`.
* **`Places.mem_union`, `Places.mem_diff`, `Places.mem_next_succ`**: what the operations do to
  membership.
* **`Expr.on`**: the moves of an expression on a text. Membership in a set of characters is decided
  once for each character that the text has.
* **`Moves.ends`**: where a move leads.
* **`Expr.occursIn`**: whether an expression consumes some part of a text.
-/

namespace UsageIndex.Pattern

/-! ## Sets of places -/

/-- A set of places; place `i` is a member if bit `i` is set. -/
abbrev Places := Nat

namespace Places

/-- Whether a place is a member. -/
def mem (s : Places) (i : Nat) : Bool := s.testBit i

/-- No place. -/
def none : Places := 0

/-- The places at which a list says `true`. -/
def marks : List Bool → Places
  | [] => 0
  | b :: bs => 2 * marks bs + b.toNat

/-- The places that are in one of two sets. -/
def union (s t : Places) : Places := s ||| t

/-- The places that are in both of two sets. -/
def inter (s t : Places) : Places := s &&& t

/-- The places that are in the first set and not in the second. -/
def diff (s t : Places) : Places := s ^^^ (s &&& t)

/-- The places one further on. -/
def next (s : Places) : Places := s <<< 1

theorem mem_none (i : Nat) : none.mem i = false := Nat.zero_testBit i

theorem mem_union (s t : Places) (i : Nat) : (s.union t).mem i = (s.mem i || t.mem i) :=
  Nat.testBit_or s t i

theorem mem_inter (s t : Places) (i : Nat) : (s.inter t).mem i = (s.mem i && t.mem i) :=
  Nat.testBit_and s t i

theorem mem_diff (s t : Places) (i : Nat) : (s.diff t).mem i = (s.mem i && !t.mem i) := by
  unfold diff mem
  rw [Nat.testBit_xor, Nat.testBit_and]
  cases s.testBit i <;> cases t.testBit i <;> rfl

theorem mem_next_zero (s : Places) : s.next.mem 0 = false := by simp [next, mem]

theorem mem_next_succ (s : Places) (i : Nat) : s.next.mem (i + 1) = s.mem i := by
  simp [next, mem, Nat.testBit_shiftLeft]

theorem mem_marks (bs : List Bool) (i : Nat) : (marks bs).mem i = (bs[i]?).getD false := by
  induction bs generalizing i with
  | nil => exact Nat.zero_testBit i
  | cons b bs ih =>
    unfold mem marks
    cases i with
    | zero => cases b <;> simp [Nat.testBit_zero, Nat.add_mod]
    | succ i =>
      rw [Nat.testBit_succ]
      have half (n : Nat) : (2 * n + b.toNat) / 2 = n := by
        have hb := b.toNat_lt
        omega
      rw [half]
      exact ih i

end Places

/-! ## Moves -/

/-- What an expression does to sets of places of one text. -/
inductive Moves where
  /-- Stays at the places of a set. -/
  | stay (s : Places)
  /-- Goes one on from the places of a set. -/
  | step (s : Places)
  /-- One move and then another. -/
  | seq (p q : Moves)
  /-- One move or another. -/
  | alt (p q : Moves)
  /-- A move at least `lo` times and, if there is a bound, at most `hi` times. -/
  | rep (p : Moves) (lo : Nat) (hi : Option Nat)

/-- Applies a function at most `n` times, and not further once it changes nothing. -/
def settle (f : Places → Places) : Nat → Places → Places
  | 0, s => s
  | n + 1, s => let t := f s; if t == s then s else settle f n t

/-- Where a move leads that is made once or more often, at most `n` times; `seen` are the places
from which it was made, and `front` those of them from which it has yet to be made on. -/
def onward (f : Places → Places) : Nat → Places → Places → Places
  | 0, _, _ => .none
  | n + 1, seen, front =>
    let reached := f front
    let fresh := reached.diff seen
    if fresh == .none then reached else reached.union (onward f n (seen.union fresh) fresh)

namespace Moves

/-- Where a move leads, on a text with fewer than `n` places. -/
def ends (n : Nat) : Moves → Places → Places
  | stay m, s => s.inter m
  | step m, s => (s.inter m).next
  | seq p q, s => let t := p.ends n s; if t == .none then .none else q.ends n t
  | alt p q, s => (p.ends n s).union (q.ends n s)
  | rep p lo (some hi), s =>
    if hi < lo then .none
    else settle (fun t => t.union (p.ends n t)) (hi - lo) (settle (p.ends n) lo s)
  | rep p 0 none, s => s.union (onward (p.ends n) n s s)
  | rep p (lo + 1) none, s =>
    let t := settle (p.ends n) lo s
    onward (p.ends n) n t t

end Moves

/-- The characters of a text, each with the places right before it. -/
def letters (t : List Char) : List (Char × Places) :=
  t.eraseDups.map fun c => (c, .marks (t.map (· == c)))

/-- The places right before a character of a set. -/
def placesBefore (s : CharSet) (ls : List (Char × Places)) : Places :=
  ls.foldl (fun m l => if s.contains l.1 then m.union l.2 else m) .none

/-- The characters before and after each place of a text, where `before` stands before it. -/
def surroundings : Option Char → List Char → List (Option Char × Option Char)
  | before, [] => [(before, none)]
  | before, c :: cs => (before, some c) :: surroundings (some c) cs

namespace Expr

/-- The moves of an expression on a text that is given by its characters and by what surrounds its
places. -/
def on (ls : List (Char × Places)) (places : List (Option Char × Option Char)) : Expr → Moves
  | empty => .stay (.marks (places.map fun _ => true))
  | edge a => .stay (.marks (places.map fun p => a.holds p.1 p.2))
  | one s => .step (placesBefore s ls)
  | seq p q => .seq (p.on ls places) (q.on ls places)
  | alt p q => .alt (p.on ls places) (q.on ls places)
  | rep p lo hi => .rep (p.on ls places) lo hi

/-- Whether an expression consumes some part of a text. -/
def occursIn (e : Expr) (t : List Char) : Bool :=
  let places := surroundings none t
  (e.on (letters t) places).ends (places.length + 1) (.marks (places.map fun _ => true)) != .none

end Expr

end UsageIndex.Pattern
