import UsageIndex.Pattern.CharSet

/-!
# Pattern expressions

What a pattern means, and how its text is built up, with its groups and with every part that it has.

* **`Expr.Spans e b u a`**: the expression `e` consumes the text `u` where `b`, nearest first,
  stands before it and `a` after it. What stands around matters to the assertions only.
* **`Expr.Fills`**: an expression consumes a whole text. **`Expr.Occurs`**: it consumes some part.
* **`Tree.height`**: how deep a pattern is nested.
* **`Tree.expr`**: what a pattern means.
-/

namespace UsageIndex.Pattern

/-- A condition on the characters around a place. -/
inductive Assertion where
  | textStart | textEnd | lineStart | lineEnd
  | wordEdge | notWordEdge | wordStart | wordEnd | wordStartHalf | wordEndHalf
  deriving DecidableEq

namespace Assertion

/-- Whether there is a word character. -/
def isWord (c : Option Char) : Bool := c.any Shorthand.word.contains

/-- Whether there is no character, or a line break. -/
def isBreak (c : Option Char) : Bool := c.all (· == '\n')

/-- Whether an assertion holds between two characters; at an end of the text there is none. -/
def holds : Assertion → Option Char → Option Char → Bool
  | textStart, before, _ => before.isNone
  | textEnd, _, after => after.isNone
  | lineStart, before, _ => isBreak before
  | lineEnd, _, after => isBreak after
  | wordEdge, before, after => isWord before != isWord after
  | notWordEdge, before, after => isWord before == isWord after
  | wordStart, before, after => !isWord before && isWord after
  | wordEnd, before, after => isWord before && !isWord after
  | wordStartHalf, before, _ => !isWord before
  | wordEndHalf, _, after => !isWord after

end Assertion

/-- A pattern expression. -/
inductive Expr where
  /-- Consumes nothing. -/
  | empty
  /-- Consumes nothing, where an assertion holds. -/
  | edge (a : Assertion)
  /-- Consumes one character of a set. -/
  | one (s : CharSet)
  /-- One expression and then another. -/
  | seq (p q : Expr)
  /-- One expression or another. -/
  | alt (p q : Expr)
  /-- An expression at least `lo` times and, if there is a bound, at most `hi` times. -/
  | rep (p : Expr) (lo : Nat) (hi : Option Nat)
  deriving DecidableEq

namespace Expr

/-! ## Meaning -/

/-- The expression `e` consumes `u`, where `b`, nearest first, stands before it and `a` after. -/
inductive Spans : Expr → List Char → List Char → List Char → Prop where
  | empty {b a : List Char} : Spans empty b [] a
  | edge {x : Assertion} {b a : List Char} : x.holds b.head? a.head? = true →
      Spans (edge x) b [] a
  | one {s : CharSet} {c : Char} {b a : List Char} : s.contains c = true → Spans (one s) b [c] a
  | seq {p q : Expr} {b u v a : List Char} : Spans p b u (v ++ a) →
      Spans q (u.reverse ++ b) v a → Spans (seq p q) b (u ++ v) a
  | altLeft {p q : Expr} {b u a : List Char} : Spans p b u a → Spans (alt p q) b u a
  | altRight {p q : Expr} {b u a : List Char} : Spans q b u a → Spans (alt p q) b u a
  | repDone {p : Expr} {hi : Option Nat} {b a : List Char} : Spans (rep p 0 hi) b [] a
  | repMore {p : Expr} {lo : Nat} {hi : Option Nat} {b u v a : List Char} : hi ≠ some 0 →
      Spans p b u (v ++ a) → Spans (rep p (lo - 1) (hi.map (· - 1))) (u.reverse ++ b) v a →
      Spans (rep p lo hi) b (u ++ v) a

/-- An expression consumes a whole text. -/
def Fills (e : Expr) (t : List Char) : Prop := Spans e [] t []

/-- An expression consumes some part of a text. -/
def Occurs (e : Expr) (t : List Char) : Prop :=
  ∃ b u a, t = b ++ u ++ a ∧ Spans e b.reverse u a

/-! ## Composition -/

/-- One expression and then another, where either may consume nothing by its form. -/
def andThen : Expr → Expr → Expr
  | empty, q => q
  | p, empty => p
  | p, q => seq p q

end Expr

/-! ## The tree of a pattern -/

/-- The tree of a pattern. -/
inductive Tree where
  /-- A part that consumes nothing. -/
  | empty
  | edge (a : Assertion)
  /-- One character of a set, whose text is nested to the given height. -/
  | one (s : CharSet) (height : Nat)
  /-- Parts one after the other, at least two. -/
  | seq (parts : List Tree)
  /-- Alternatives, at least two. -/
  | alt (alternatives : List Tree)
  /-- A part at least `lo` times and, if there is a bound, at most `hi` times. -/
  | rep (t : Tree) (lo : Nat) (hi : Option Nat)
  /-- A part between parentheses. -/
  | group (captures : Bool) (t : Tree)

namespace Tree

/-- The tree of parts one after the other. -/
def ofParts : List Tree → Tree
  | [] => empty
  | [t] => t
  | ts => seq ts

/-- The tree of alternatives. -/
def ofAlternatives : List Tree → Tree
  | [t] => t
  | ts => alt ts

mutual

/-- How deep a tree is nested. -/
def height : Tree → Nat
  | empty => 0
  | edge _ => 0
  | one _ h => h
  | seq ts => tallest ts + 1
  | alt ts => tallest ts + 1
  | rep t _ _ => t.height + 1
  | group _ t => t.height + 1

/-- The greatest height of a tree of a list. -/
def tallest : List Tree → Nat
  | [] => 0
  | t :: ts => max t.height (tallest ts)

end

mutual

/-- What a tree means. -/
def expr : Tree → Expr
  | empty => .empty
  | edge a => .edge a
  | one s _ => .one s
  | seq ts => exprOfParts ts
  | alt ts => exprOfAlternatives ts
  | rep t lo hi => .rep t.expr lo hi
  | group _ t => t.expr

/-- What parts mean one after the other. -/
def exprOfParts : List Tree → Expr
  | [] => .empty
  | t :: ts => Expr.andThen t.expr (exprOfParts ts)

/-- What alternatives mean. -/
def exprOfAlternatives : List Tree → Expr
  | [] => .empty
  | [t] => t.expr
  | t :: ts => .alt t.expr (exprOfAlternatives ts)

end

end Tree

end UsageIndex.Pattern
