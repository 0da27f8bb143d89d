import UsageIndex.Pattern.Expr
import UsageIndex.Pattern.Runs

/-!
# Normal forms of patterns

The form in which a pattern is written out as an automaton: neighbouring characters are put together
to texts, alternatives that consume one character each to sets, and parts of parts to one list.

* **`Form.ofTree`**: the form of a pattern.
* **`Form.consumes?`**: whether a form consumes at least one character, where this can be told.
-/

namespace UsageIndex.Pattern

/-- The normal form of a pattern. -/
inductive Form where
  | empty
  | edge (a : Assertion)
  /-- A text, not empty. -/
  | literal (cs : List Char)
  /-- One character of a set, which has not exactly one. -/
  | set (runs : List (Nat × Nat))
  /-- Forms one after the other, at least two. -/
  | seq (fs : List Form)
  /-- Alternatives, at least two. -/
  | alt (fs : List Form)
  | rep (f : Form) (lo : Nat) (hi : Option Nat)
  /-- A group that captures. -/
  | capture (f : Form)

namespace Form

/-! ## What a form consumes -/

mutual

/-- Whether a form consumes nothing. -/
def isZeroWidth : Form → Bool
  | empty => true
  | edge _ => true
  | literal _ => false
  | set _ => false
  | seq fs => allZeroWidth fs
  | alt fs => allZeroWidth fs
  | rep f _ hi => hi.isSome && f.isZeroWidth
  | capture f => f.isZeroWidth

/-- Whether the forms of a list consume nothing. -/
def allZeroWidth : List Form → Bool
  | [] => true
  | f :: fs => f.isZeroWidth && allZeroWidth fs

end

mutual

/-- Whether a form consumes at least one character; of a form with a part that consumes nothing at
all because its set has no characters this is not told. -/
def consumes? : Form → Option Bool
  | empty => some false
  | edge _ => some false
  | literal _ => some true
  | set runs => if runs.isEmpty then none else some true
  | seq fs => anyConsumes? fs
  | alt fs => allConsume? fs
  | rep f lo _ => f.consumes?.map fun c => c && decide (0 < lo)
  | capture f => f.consumes?

/-- Whether one of some forms consumes at least one character. -/
def anyConsumes? : List Form → Option Bool
  | [] => some false
  | f :: fs =>
    match f.consumes?, anyConsumes? fs with
    | some c, some d => some (c || d)
    | _, _ => none

/-- Whether each of some forms consumes at least one character. -/
def allConsume? : List Form → Option Bool
  | [] => some true
  | f :: fs =>
    match f.consumes?, allConsume? fs with
    | some c, some d => some (c && d)
    | _, _ => none

end

/-! ## Equality -/

mutual

/-- Whether two forms are the same; groups that capture never are. -/
def same : Form → Form → Bool
  | empty, empty => true
  | edge a, edge b => a == b
  | literal cs, literal ds => cs == ds
  | set r, set s => r == s
  | seq fs, seq gs => allSame fs gs
  | alt fs, alt gs => allSame fs gs
  | rep f lo hi, rep g lo' hi' => lo == lo' && hi == hi' && f.same g
  | _, _ => false

/-- Whether two lists have the same forms. -/
def allSame : List Form → List Form → Bool
  | [], [] => true
  | f :: fs, g :: gs => f.same g && allSame fs gs
  | _, _ => false

end

/-- How many forms two lists have in common at their start. -/
def sharedLength : List Form → List Form → Nat
  | f :: fs, g :: gs => if f.same g then sharedLength fs gs + 1 else 0
  | _, _ => 0

/-! ## Composition -/

/-- One character of a set that is given by its runs. -/
def ofRuns : List (Nat × Nat) → Form
  | [(a, b)] => if a + 1 = b then literal [Char.ofNat a] else set [(a, b)]
  | runs => set runs

/-- A form as forms one after the other. -/
def parts : Form → List Form
  | empty => []
  | seq fs => fs
  | f => [f]

/-- Puts a form in front; two texts become one. -/
def consPart : Form → List Form → List Form
  | literal cs, literal ds :: fs => literal (cs ++ ds) :: fs
  | f, fs => f :: fs

/-- Forms one after the other. -/
def concat (fs : List Form) : Form :=
  match (fs.flatMap parts).foldr consPart [] with
  | [] => empty
  | [f] => f
  | fs => seq fs

/-- A form as alternatives. -/
def alternatives : Form → List Form
  | alt fs => fs
  | f => [f]

/-- The runs of a form that is a text of one character. -/
def charRuns? : Form → Option (List (Nat × Nat))
  | literal [c] => some [(c.toNat, c.toNat + 1)]
  | _ => none

/-- The runs of a form that is a set. -/
def setRuns? : Form → Option (List (Nat × Nat))
  | set runs => some runs
  | _ => none

/-- The union of sets that are given by their runs. -/
def unionRuns (sets : List (List (Nat × Nat))) : List (Nat × Nat) :=
  Flips.runs (sets.foldl
    (fun x runs => combineFlips or x (runs.flatMap fun r => [r.1, r.2])) [])

/-- One form for alternatives that consume one character each: all of them characters, or all of
them sets. -/
def union? (fs : List Form) : Option Form :=
  match fs.mapM charRuns?, fs.mapM setRuns? with
  | some sets, _ => some (ofRuns (unionRuns sets))
  | none, some sets => some (ofRuns (unionRuns sets))
  | none, none => none

/-- The parts of a form that has at least two. -/
def parts? : Form → Option (List Form)
  | seq fs => some fs
  | _ => none

/-- The parts that all of some alternatives begin with, and what is left of each. -/
def sharedParts? (fs : List Form) : Option (List Form × List (List Form)) :=
  match fs.mapM parts? with
  | some (p :: ps) =>
    match ps.foldl (fun n q => min n (sharedLength p q)) p.length with
    | 0 => none
    | n + 1 => some (p.take (n + 1), (p :: ps).map (·.drop (n + 1)))
  | _ => none

/-- Alternatives, without a look at the parts that they begin with. -/
def choice (fs : List Form) : Form :=
  match fs.flatMap alternatives with
  | [f] => f
  | fs => (union? fs).getD (alt fs)

/-- Alternatives. What all of them begin with is written once. -/
def alternation (fs : List Form) : Form :=
  match choice fs with
  | alt gs =>
    match sharedParts? gs with
    | some (shared, rests) => concat (shared ++ [choice (rests.map concat)])
    | none => alt gs
  | f => f

/-- A form at least `lo` times and, if there is a bound, at most `hi` times. A form that consumes
nothing is repeated once at most. -/
def repeated (f : Form) (lo : Nat) (hi : Option Nat) : Form :=
  let lo' := if f.isZeroWidth then min lo 1 else lo
  let hi' := if f.isZeroWidth then some (min (hi.getD 1) 1) else hi
  if hi' == some 0 then empty
  else if lo' == 1 && hi' == some 1 then f
  else rep f lo' hi'

mutual

/-- The form of a pattern. -/
def ofTree : Tree → Form
  | .empty => empty
  | .edge a => edge a
  | .one s _ => ofRuns s.runs
  | .seq ts => concat (ofTrees ts)
  | .alt ts => alternation (ofTrees ts)
  | .rep t lo hi => (ofTree t).repeated lo hi
  | .group captures t => if captures then capture (ofTree t) else ofTree t

/-- The forms of patterns. -/
def ofTrees : List Tree → List Form
  | [] => []
  | t :: ts => ofTree t :: ofTrees ts

end

end Form

end UsageIndex.Pattern
