import UsageIndex.Ordered.Flips
import UsageIndex.Pattern.CharSet

/-!
# Runs of a set of characters

The maximal runs of the characters of a set, which say how large the set is when it is written out.

* **`CharSet.flips`**: the code points at which membership of a set changes.
* **`CharSet.runs`**: the maximal runs of its characters.
-/

namespace UsageIndex.Pattern

/-- The flips of a set that is given by ascending ranges, ends included, that do not touch. -/
def flipsOfRanges (ranges : List (Nat × Nat)) : List Nat := ranges.flatMap fun r => [r.1, r.2 + 1]

/-- The flips of a Boolean combination of two sets. -/
def combineFlips (op : Bool → Bool → Bool) (x y : List Nat) : List Nat :=
  Flips.combine op false false x y

/-- The flips of all code points. -/
def codePointFlips : List Nat := [0, 0x110000]

/-- The flips of the code points that are characters. -/
def scalarFlips : List Nat := [0, 0xd800, 0xe000, 0x110000]

namespace Shorthand

/-- The flips of a set without the characters that are new in version 17.0. -/
def dropNew (x : List Nat) : List Nat :=
  combineFlips (fun a b => a && !b) x (flipsOfRanges Text.newIn17Ranges)

/-- The flips of the word characters. -/
def wordFlips : List Nat :=
  dropNew ([Text.alphabeticRanges, Text.digitRanges, Text.connectorRanges, Text.markRanges,
    Text.joinerRanges].foldl (fun x r => combineFlips or x (flipsOfRanges r)) [])

/-- The flips of the decimal digits. -/
def digitFlips : List Nat := dropNew (flipsOfRanges Text.digitRanges)

/-- The flips of a class with a letter. -/
def flips : Shorthand → List Nat
  | digit => digitFlips
  | blank => flipsOfRanges Text.blankRanges
  | word => wordFlips

end Shorthand

/-! ## Case -/

/-- The pairs of a code point and a code point that it is folded to. -/
def foldPairs : List (Nat × Nat) :=
  Text.foldRuns.flatMap fun (first, last, step, offset) =>
    (List.range ((last - first) / step + 1)).map fun i =>
      (first + i * step, ((first + i * step : Nat) + offset).toNat)

/-- The sets of at least two code points that are equal up to case. -/
def orbits : List (List Nat) :=
  let pairs := foldPairs.mergeSort fun p q => p.2 ≤ q.2
  (pairs.splitBy fun p q => p.2 == q.2).map fun ps => (ps.map (·.2)).take 1 ++ ps.map (·.1)

/-- The code points that are equal up to case to another, in descending order, each with the code
points that are equal to it. -/
def caseMates : List (Nat × List Nat) :=
  (orbits.flatMap fun o => o.map fun n => (n, o)).mergeSort fun p q => q.1 ≤ p.1

/-- The flips of what is equal up to case to a member of a set. -/
def caselessFlips (x : List Nat) : List Nat :=
  let mates := caseMates.filter fun p => p.2.any (Flips.memFrom false x)
  combineFlips or x (Flips.ofDescending (mates.map (·.1)))

namespace CharSet

/-- The code points at which membership of a set changes, in ascending order. -/
def flips : CharSet → List Nat
  | nothing => []
  | range lo hi => if lo ≤ hi then [lo.toNat, hi.toNat + 1] else []
  | shorthand k => k.flips
  | posix k => flipsOfRanges k.ranges
  | union s t => combineFlips or s.flips t.flips
  | inter s t => combineFlips and s.flips t.flips
  | diff s t => combineFlips (fun a b => a && !b) s.flips t.flips
  | symmDiff s t => combineFlips xor s.flips t.flips
  | compl s => combineFlips (fun a b => b && !a) s.flips codePointFlips
  | caseless s => caselessFlips s.flips

/-- The maximal runs of the characters of a set, each as its first character and the code point
behind its last. -/
def runs (s : CharSet) : List (Nat × Nat) := Flips.runs (combineFlips and s.flips scalarFlips)

end CharSet

end UsageIndex.Pattern
