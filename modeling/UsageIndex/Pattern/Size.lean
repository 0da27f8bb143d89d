import Std.Data.HashSet
import UsageIndex.Pattern.Form

/-!
# The size of patterns

How much room a pattern takes once it is written out as an automaton on bytes. There are two of
them: one reads a text forwards and notes where groups begin and end, the other reads it backwards.
A state takes 32 bytes; a state with several ways out takes more.

UTF-8 writes a code point as a lead byte and up to three bytes behind it, each of which counts a
digit to the base 64. The encodings of a run of code points split into blocks: texts of bytes of
one length, each of whose bytes lies in a range of its own.

* **`Text.encodedBlocks`**: the blocks of a run, in ascending order. Code points that are no
  characters are left out.
* **`Form.size`**: the size of the automaton of a form.
* **`automatonSize`**: the size of the automaton of a whole pattern.
-/

namespace UsageIndex.Text

/-! ## Encoded runs of code points -/

/-- The ranges of the bytes of a block, ends included, the lead byte first. -/
abbrev ByteBlock := List (Nat × Nat)

/-- The blocks of the numbers from `lo` to `hi`, written to the base 64 with `digits` digits behind
a lead, where a byte stands for a digit by what `base` adds to it. The digits behind the lead are
bytes from 0x80 on. A lead that is not met in full has blocks of its own. -/
def digitBlocks : (digits base lo hi : Nat) → List ByteBlock
  | 0, base, lo, hi => [[(base + lo, base + hi)]]
  | n + 1, base, lo, hi =>
    let unit := 64 ^ (n + 1)
    let a := lo / unit
    let b := hi / unit
    if a = b then
      (digitBlocks n 0x80 (lo % unit) (hi % unit)).map ((base + a, base + a) :: ·)
    else
      let startsFull := lo % unit = 0
      let endsFull := hi % unit = unit - 1
      let first := if startsFull then []
        else (digitBlocks n 0x80 (lo % unit) (unit - 1)).map ((base + a, base + a) :: ·)
      let last := if endsFull then []
        else (digitBlocks n 0x80 0 (hi % unit)).map ((base + b, base + b) :: ·)
      let a' := if startsFull then a else a + 1
      let b' := if endsFull then b + 1 else b
      let middle := if a' < b' then
          [(base + a', base + b' - 1) :: List.replicate (n + 1) (0x80, 0xbf)]
        else []
      first ++ middle ++ last

/-- The code points that are characters, by the number of bytes behind the lead byte: the first and
the last of them, that number, and what is added to the lead. -/
def encodingLengths : List (Nat × Nat × Nat × Nat) := [
  (0x0, 0x7f, 0, 0x0), (0x80, 0x7ff, 1, 0xc0), (0x800, 0xd7ff, 2, 0xe0), (0xe000, 0xffff, 2, 0xe0),
  (0x10000, 0x10ffff, 3, 0xf0)]

/-- The blocks of the characters from `lo` to `hi`. -/
def encodedBlocks (lo hi : Nat) : List ByteBlock :=
  encodingLengths.flatMap fun (first, last, digits, base) =>
    if max lo first ≤ min hi last then digitBlocks digits base (max lo first) (min hi last) else []

end UsageIndex.Text

namespace UsageIndex.Pattern

/-- Which way an automaton reads a text. -/
inductive Direction where
  | forward | backward
  deriving DecidableEq

/-! ## States -/

/-- The size of a state with at most one way out. -/
def stateSize : Nat := 32

/-- The size of a state that has `n` ways out without reading. -/
def forkSize (n : Nat) : Nat := stateSize + 4 * n

/-- The size of a state that reads a byte and has a way out for each of `n` ranges. -/
def switchSize (n : Nat) : Nat := stateSize + 8 * n

/-! ## Sets -/

/-- The first ranges of blocks, each with what follows it in its blocks; blocks with one first range
stand side by side. -/
def heads : List Text.ByteBlock → List ((Nat × Nat) × List Text.ByteBlock)
  | [] => []
  | [] :: bs => heads bs
  | (r :: b) :: bs =>
    match heads bs with
    | (r', rests) :: hs => if r = r' then (r, b :: rests) :: hs else (r, [b]) :: (r', rests) :: hs
    | [] => [(r, [b])]

/-- The states of an automaton that reads one of some blocks of at most `n` bytes, each given by the
blocks that are left to be read in it. The state behind all blocks is not one of them. -/
def switches : (n : Nat) → List Text.ByteBlock → List (List Text.ByteBlock)
  | 0, _ => []
  | n + 1, bs =>
    match heads bs with
    | [] => []
    | hs => bs :: hs.flatMap fun h => switches n h.2

/-- The size of an automaton that reads one of some blocks forwards, in which states with the same
blocks left are one state. -/
def forwardSize (bs : List Text.ByteBlock) : Nat :=
  (Std.HashSet.ofList (switches 4 bs)).fold (fun n s => n + switchSize (heads s).length) stateSize

/-- How many ranges two blocks have in common at their start. -/
def sharedBytes : Text.ByteBlock → Text.ByteBlock → Nat
  | r :: b, s :: c => if r = s then sharedBytes b c + 1 else 0
  | _, _ => 0

/-- The number of ranges of blocks, those not counted that a block shares with the one before it. -/
def unsharedBytes : Text.ByteBlock → List Text.ByteBlock → Nat
  | _, [] => 0
  | before, b :: bs => b.length - sharedBytes before b + unsharedBytes b bs

/-- The size of an automaton that reads one of some blocks backwards: a state for each range, and
one state for ranges that come last in the same blocks. -/
def backwardSize (bs : List Text.ByteBlock) : Nat :=
  forkSize bs.length + stateSize + stateSize * unsharedBytes [] bs

/-- The size of an automaton that reads one character of a set. -/
def setSize (d : Direction) (runs : List (Nat × Nat)) : Nat :=
  if runs.all fun r => r.2 ≤ 0x80 then stateSize + switchSize runs.length
  else
    let blocks := runs.flatMap fun r => Text.encodedBlocks r.1 (r.2 - 1)
    match d with
    | .forward => forwardSize blocks
    | .backward => backwardSize blocks

/-! ## Texts -/

/-- The bytes of a text, in the order in which they are read. -/
def bytesOf (d : Direction) (cs : List Char) : List UInt8 :=
  match d with
  | .forward => cs.flatMap String.utf8EncodeChar
  | .backward => (cs.flatMap String.utf8EncodeChar).reverse

/-- Splits texts where one of them is empty. The empty texts before the first that is not count as
one. -/
def splitAtEmpty (ts : List (List UInt8)) : List (List (List UInt8)) :=
  match ts with
  | [] :: rest => [] :: (rest.dropWhile List.isEmpty).splitOnP List.isEmpty
  | ts => ts.splitOnP List.isEmpty

/-- Adds a text to those that begin with the same byte, as what follows that byte. -/
def addByHead (groups : List (UInt8 × List (List UInt8))) (t : List UInt8) :
    List (UInt8 × List (List UInt8)) :=
  match t with
  | [] => groups
  | b :: rest =>
    match groups.lookup b with
    | some _ => groups.map fun g => if g.1 == b then (b, g.2 ++ [rest]) else g
    | none => groups ++ [(b, [rest])]

/-- The size of the state of a tree of texts where the texts `ts`, of at most `n` bytes, are left to
be read, and of all states behind it. The end of a text divides those before it from those after
it. There is no state where nothing is left to be read. -/
def branchSize : (n : Nat) → (ts : List (List UInt8)) → Nat
  | 0, _ => 0
  | n + 1, ts =>
    if ts.all List.isEmpty then 0
    else
      let chunks := (splitAtEmpty ts).map fun c => c.foldl addByHead []
      let used := chunks.filter fun c => !c.isEmpty
      let ways (k : Nat) : Nat := if k = 1 then stateSize else switchSize k
      forkSize (used.length + (chunks.length - 1))
        + (used.map fun c => ways c.length + (c.map fun g => branchSize n g.2).sum).sum

/-- The size of an automaton that reads one of some texts. -/
def textsSize (d : Direction) (texts : List (List Char)) : Nat :=
  let ts := texts.map (bytesOf d)
  stateSize + branchSize ((ts.map List.length).foldl max 0) ts

/-- The texts of forms, if all of them are texts. -/
def texts? (fs : List Form) : Option (List (List Char)) :=
  fs.mapM fun
    | .literal cs => some cs
    | _ => none

/-! ## Forms -/

/-- The size of an automaton that repeats one of size `n`; `consumes` says that the latter cannot
come to its end without reading. -/
def repeatedSize (n : Nat) (consumes : Bool) : (lo : Nat) → (hi : Option Nat) → Nat
  | 0, some 1 => forkSize 2 + n + stateSize
  | 0, none => if consumes then forkSize 2 + n else n + forkSize 2 + forkSize 2 + stateSize
  | lo + 1, none => (lo + 1) * n + forkSize 2
  | lo, some hi =>
    if lo = hi then lo * n
    else (if lo = 0 then stateSize else lo * n) + stateSize + (hi - lo) * (forkSize 2 + n)

namespace Form

mutual

/-- The size of the automaton of a form. -/
def size (d : Direction) : Form → Nat
  | empty => stateSize
  | edge _ => stateSize
  | literal cs => stateSize * (bytesOf d cs).length
  | set runs => setSize d runs
  | seq fs => sizeSum d fs
  | alt fs =>
    match texts? fs with
    | some texts => textsSize d texts
    | none => forkSize fs.length + stateSize + sizeSum d fs
  | rep f lo hi => repeatedSize (f.size d) (f.consumes? == some true) lo hi
  | capture f => f.size d + if d = .forward then 2 * stateSize else 0

/-- The sizes of the automata of forms together. -/
def sizeSum (d : Direction) : List Form → Nat
  | [] => 0
  | f :: fs => f.size d + sizeSum d fs

end

mutual

/-- Whether a form holds an assertion at the end at which it is read first, before it consumes
anything. -/
def holdsFirst (d : Direction) (a : Assertion) : Form → Bool
  | empty => false
  | edge b => a == b
  | literal _ => false
  | set _ => false
  | seq fs =>
    match d with
    | .forward => someHoldsFirst d a fs
    | .backward => someHoldsLast d a fs
  | alt fs => allHoldFirst d a fs
  | rep f lo _ => decide (0 < lo) && f.holdsFirst d a
  | capture f => f.holdsFirst d a

/-- Whether one of some forms, read in this order, holds an assertion first. -/
def someHoldsFirst (d : Direction) (a : Assertion) : List Form → Bool
  | [] => false
  | f :: fs => f.holdsFirst d a || (f.isZeroWidth && someHoldsFirst d a fs)

/-- Whether one of some forms, read in the opposite order, holds an assertion first. -/
def someHoldsLast (d : Direction) (a : Assertion) : List Form → Bool
  | [] => false
  | f :: fs => someHoldsLast d a fs || (allZeroWidth fs && f.holdsFirst d a)

/-- Whether each of some forms holds an assertion first. -/
def allHoldFirst (d : Direction) (a : Assertion) : List Form → Bool
  | [] => true
  | f :: fs => f.holdsFirst d a && allHoldFirst d a fs

end

end Form

/-- The size of what is put before an automaton: nothing but a state if it can only begin at the end
of the text, and else a loop that passes over bytes. -/
def leadSize (d : Direction) (f : Form) : Nat :=
  let a := match d with
    | .forward => Assertion.textStart
    | .backward => Assertion.textEnd
  if f.holdsFirst d a then stateSize else forkSize 2 + stateSize + switchSize 1

/-- The size of the automaton of a whole pattern, with its last state and, if it notes where groups
begin and end, the group that the whole pattern is. -/
def automatonSize (d : Direction) (f : Form) : Nat :=
  leadSize d f + (Form.capture f).size d + stateSize

end UsageIndex.Pattern
