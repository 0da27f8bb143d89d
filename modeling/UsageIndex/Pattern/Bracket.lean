import UsageIndex.Pattern.Escape

/-!
# Bracket classes

The classes between brackets: characters, ranges, classes with a letter or a name, nested brackets,
and the operations `&&`, `--` and `~~`, which bind weaker than the union of what stands side by
side and group to the left.

* **`Bracket.toSet`**: the set of characters of a class. Case is folded where a bracket closes and
  at both sides of an operation, before a class is negated.
* **`Bracket.height`**: how deep a class is nested.
* **`readBracket`**: reads what follows an opening bracket.
* **`readBracket_suffix`**: the rest is the end of what the reader was given.
-/

namespace UsageIndex.Pattern

/-- The operations on classes that are written between them. -/
inductive BracketOp where
  /-- Intersection, `&&`. -/
  | inter
  /-- Difference, `--`. -/
  | diff
  /-- Symmetric difference, `~~`. -/
  | symmDiff
  deriving DecidableEq

/-- What stands between brackets. -/
inductive Bracket where
  | nothing
  | range (lo hi : Char)
  | shorthand (k : Shorthand) (negated : Bool)
  | posix (k : Posix) (negated : Bool)
  | union (p q : Bracket)
  | op (o : BracketOp) (p q : Bracket)
  /-- A class between brackets of its own. -/
  | group (negated : Bool) (p : Bracket)
  deriving DecidableEq

namespace Bracket

/-- The set that an operation makes of two. -/
def apply : BracketOp → CharSet → CharSet → CharSet
  | .inter, s, t => .inter s t
  | .diff, s, t => .diff s t
  | .symmDiff, s, t => .symmDiff s t

/-- The set of characters of a class, up to case or not. -/
def toSet (caseless : Bool) : Bracket → CharSet
  | nothing => .nothing
  | range lo hi => .range lo hi
  | shorthand k negated => (CharSet.shorthand k).negateIf negated
  | posix k negated => ((CharSet.posix k).foldIf caseless).negateIf negated
  | union p q => .union (p.toSet caseless) (q.toSet caseless)
  | op o p q => apply o ((p.toSet caseless).foldIf caseless) ((q.toSet caseless).foldIf caseless)
  | group negated p => ((p.toSet caseless).foldIf caseless).negateIf negated

/-- A class of one character. -/
def single (c : Char) : Bracket := range c c

/-- The height of things that stand side by side: it is that of the highest, and one more if there
are at least two. -/
def heightOfRow (count tallest : Nat) : Nat := if count ≤ 1 then tallest else tallest + 1

/-- The number of classes that stand side by side, and the greatest height of one of them. -/
def row : Bracket → Nat × Nat
  | nothing => (0, 0)
  | range _ _ => (1, 0)
  | shorthand _ _ => (1, 0)
  | posix _ _ => (1, 0)
  | union p q => (p.row.1 + q.row.1, max p.row.2 q.row.2)
  | op _ p q =>
    (1, max (heightOfRow p.row.1 p.row.2) (heightOfRow q.row.1 q.row.2) + 1)
  | group _ p => (1, heightOfRow p.row.1 p.row.2 + 1)

/-- The height of a class: brackets, operations and classes that stand side by side each add one to
what they hold. -/
def height (p : Bracket) : Nat := heightOfRow p.row.1 p.row.2

end Bracket

/-- A bracket that is still open. -/
structure OpenBracket where
  negated : Bool
  /-- An operation that waits for its right side, with its left side. -/
  pending : Option (BracketOp × Bracket)
  /-- What stands side by side since the bracket or the last operation. -/
  items : Bracket

namespace OpenBracket

/-- Puts one more class beside the others. -/
def add (b : OpenBracket) (p : Bracket) : OpenBracket := { b with items := b.items.union p }

/-- What has been read, the operation that waits applied. -/
def content (b : OpenBracket) : Bracket :=
  match b.pending with
  | some (o, p) => .op o p b.items
  | none => b.items

/-- An operation follows. -/
def await (b : OpenBracket) (o : BracketOp) : OpenBracket :=
  { b with pending := some (o, b.content), items := .nothing }

/-- The class, once the bracket is closed. -/
def close (b : OpenBracket) : Bracket := .group b.negated b.content

end OpenBracket

/-- Whether the `^` that negates follows, and the rest. -/
def readCaret : List Char → Bool × List Char
  | '^' :: cs => (true, cs)
  | cs => (false, cs)

/-- Reads the start of a bracket: a `^` negates; dashes stand for themselves; a closing bracket
right at the start stands for itself. -/
def openBracket (cs : List Char) : OpenBracket × List Char :=
  let (negated, cs) := readCaret cs
  let dashes := cs.takeWhile (· == '-')
  let items := dashes.foldl (fun p c => p.union (.single c)) Bracket.nothing
  match dashes, cs.dropWhile (· == '-') with
  | [], ']' :: rest => (⟨negated, none, items.union (.single ']')⟩, rest)
  | _, rest => (⟨negated, none, items⟩, rest)

/-- Reads a class with a name between colons, as what follows the bracket before it. Anything else
is not such a class. -/
def readPosix? : List Char → Option (Bracket × List Char)
  | ':' :: cs =>
    let (negated, cs) := readCaret cs
    match Posix.ofName? (cs.takeWhile (· != ':')), cs.dropWhile (· != ':') with
    | some k, ':' :: ']' :: rest => some (.posix k negated, rest)
    | _, _ => none
  | _ => none

/-- Reads one character or escape in a bracket. -/
def readItem : List Char → Except Fault (Escape × List Char)
  | [] => .error .unclosedClass
  | '\\' :: cs => readEscape cs
  | c :: cs => .ok (.char c, cs)

/-- An item as a class. -/
def Escape.toBracket : Escape → Except Fault Bracket
  | char c => .ok (.single c)
  | shorthand k negated => .ok (.shorthand k negated)
  | edge _ => .error .badClassItem

/-- Whether what follows an item makes a range of it: a dash that neither ends the class nor begins
an operation. -/
def startsRange : List Char → Bool
  | '-' :: ']' :: _ => false
  | '-' :: '-' :: _ => false
  | '-' :: _ => true
  | _ => false

/-- Reads an item or a range. -/
def readRange (cs : List Char) : Except Fault (Bracket × List Char) :=
  match readItem cs with
  | .error f => .error f
  | .ok (x, rest) =>
    if startsRange rest then
      match readItem (rest.drop 1) with
      | .error f => .error f
      | .ok (y, rest') =>
        match x, y with
        | .char lo, .char hi => if lo ≤ hi then .ok (.range lo hi, rest') else .error .badRange
        | _, _ => .error .badRange
    else match x.toBracket with
      | .ok p => .ok (p, rest)
      | .error f => .error f

/-! ## What is left -/

theorem readCaret_suffix (cs : List Char) : (readCaret cs).2 <:+ cs := by
  unfold readCaret
  split
  · exact List.suffix_cons _ _
  · exact List.suffix_refl _

theorem openBracket_suffix (cs : List Char) : (openBracket cs).2 <:+ cs := by
  have hcaret := readCaret_suffix cs
  unfold openBracket
  simp only
  split
  · rename_i hd
    exact (suffix_of_dropWhile_eq_cons hd).trans hcaret
  · exact (List.dropWhile_suffix _).trans hcaret

theorem readPosix?_suffix {cs rest : List Char} {p : Bracket}
    (h : readPosix? cs = some (p, rest)) : rest <:+ cs := by
  unfold readPosix? at h
  split at h
  · rename_i cs
    simp only at h
    split at h
    · rename_i hd
      cases h
      have hrest := (List.suffix_cons ']' _).trans (suffix_of_dropWhile_eq_cons hd)
      exact (hrest.trans (readCaret_suffix cs)).trans (List.suffix_cons _ _)
    · cases h
  · cases h

/-- An item takes at least one character. -/
theorem readItem_suffix {cs rest : List Char} {e : Escape}
    (h : readItem cs = .ok (e, rest)) : rest <:+ cs.tail := by
  unfold readItem at h
  split at h
  · cases h
  · exact readEscape_suffix h
  · cases h
    exact List.suffix_refl _

theorem readRange_suffix {cs rest : List Char} {p : Bracket}
    (h : readRange cs = .ok (p, rest)) : rest <:+ cs.tail := by
  unfold readRange at h
  split at h
  · cases h
  · rename_i x r hx
    have hr := readItem_suffix hx
    split at h
    · split at h
      · cases h
      · rename_i y r' hy
        have hr' := ((readItem_suffix hy).trans (List.tail_suffix _)).trans (List.drop_suffix _ _)
        split at h
        · split at h
          · cases h
            exact hr'.trans hr
          · cases h
        · cases h
    · split at h
      · cases h
        exact hr
      · cases h

/-! ## Reading -/

/-- Reads on inside the bracket `b`, which stands inside the brackets `outer`, nearest first. -/
def readBracketFrom (outer : List OpenBracket) (b : OpenBracket) (cs : List Char) :
    Except Fault (Bracket × List Char) :=
  match cs with
  | [] => .error .unclosedClass
  | '[' :: cs =>
    match _h : readPosix? cs with
    | some (p, rest) => readBracketFrom outer (b.add p) rest
    | none => readBracketFrom (b :: outer) (openBracket cs).1 (openBracket cs).2
  | ']' :: cs =>
    match outer with
    | [] => .ok (b.close, cs)
    | b' :: outer => readBracketFrom outer (b'.add b.close) cs
  | '&' :: '&' :: cs => readBracketFrom outer (b.await .inter) cs
  | '-' :: '-' :: cs => readBracketFrom outer (b.await .diff) cs
  | '~' :: '~' :: cs => readBracketFrom outer (b.await .symmDiff) cs
  | c :: cs =>
    match _h : readRange (c :: cs) with
    | .ok (p, rest) => readBracketFrom outer (b.add p) rest
    | .error f => .error f
termination_by cs.length
decreasing_by
  all_goals first
    | exact Nat.lt_succ_of_le (readPosix?_suffix _h).length_le
    | exact Nat.lt_succ_of_le (openBracket_suffix _).length_le
    | exact Nat.lt_succ_of_le (readRange_suffix _h).length_le
    | (simp only [List.length_cons]; omega)

/-- Reads a class, from what follows its opening bracket on. -/
def readBracket (cs : List Char) : Except Fault (Bracket × List Char) :=
  readBracketFrom [] (openBracket cs).1 (openBracket cs).2

theorem readBracketFrom_suffix {outer : List OpenBracket} {b : OpenBracket}
    {cs rest : List Char} {p : Bracket} (h : readBracketFrom outer b cs = .ok (p, rest)) :
    rest <:+ cs := by
  fun_induction readBracketFrom outer b cs with
  | case1 => cases h
  | case2 _ _ cs _ _ hp ih =>
    exact ((ih h).trans (readPosix?_suffix hp)).trans (List.suffix_cons _ _)
  | case3 _ _ cs _ ih =>
    exact ((ih h).trans (openBracket_suffix cs)).trans (List.suffix_cons _ _)
  | case4 =>
    cases h
    exact List.suffix_cons _ _
  | case5 _ _ _ _ ih => exact (ih h).trans (List.suffix_cons _ _)
  | case6 _ _ cs ih | case7 _ _ cs ih | case8 _ _ cs ih =>
    exact (ih h).trans ((List.suffix_cons _ cs).trans (List.suffix_cons _ _))
  | case9 _ _ _ _ _ _ _ _ _ _ _ hr ih =>
    exact ((ih h).trans (readRange_suffix hr)).trans (List.suffix_cons _ _)
  | case10 => cases h

/-- A class leaves the end of what follows its opening bracket. -/
theorem readBracket_suffix {cs rest : List Char} {p : Bracket}
    (h : readBracket cs = .ok (p, rest)) : rest <:+ cs :=
  (readBracketFrom_suffix h).trans (openBracket_suffix cs)

end UsageIndex.Pattern
