import UsageIndex.Pattern.Expr
import UsageIndex.Pattern.Token

/-!
# The structure of patterns

The tokens of a pattern are taken in one after the other; the groups that are open are kept on a
stack.

* **`Outline.push`**: takes in one token.
* **`parse`**: the tree of a text, under flags that hold from its start.
-/

namespace UsageIndex.Pattern

/-- The flags that hold at some place of a pattern. -/
structure Flags where
  caseless : Bool
  dotAll : Bool
  multiLine : Bool
  deriving DecidableEq

/-- The flags after a change. -/
def Flags.change (f : Flags) (c : FlagChange) : Flags where
  caseless := c.caseless.getD f.caseless
  dotAll := c.dotAll.getD f.dotAll
  multiLine := c.multiLine.getD f.multiLine

/-- What has been read of a group, or of the whole pattern. -/
structure Level where
  /-- The flags that hold here. -/
  flags : Flags
  /-- The alternatives that are complete, the last first. -/
  alternatives : List Tree
  /-- The parts of the last alternative, the last first. -/
  parts : List Tree
  /-- Whether the last part may be repeated. -/
  repeatable : Bool
  /-- Whether the group captures. -/
  captures : Bool

namespace Level

/-- Nothing has been read. -/
def start (flags : Flags) (captures : Bool) : Level := ⟨flags, [], [], false, captures⟩

/-- One more part, which may be repeated. -/
def add (l : Level) (t : Tree) : Level := { l with parts := t :: l.parts, repeatable := true }

/-- A change of the flags, a part that may not be repeated. -/
def setFlags (l : Level) (f : FlagChange) : Level :=
  { l with flags := l.flags.change f, parts := .empty :: l.parts, repeatable := false }

/-- The last alternative. -/
def lastAlternative (l : Level) : Tree := Tree.ofParts l.parts.reverse

/-- The last alternative is complete and another begins. -/
def bar (l : Level) : Level :=
  { l with alternatives := l.lastAlternative :: l.alternatives, parts := [], repeatable := false }

/-- What has been read. -/
def tree (l : Level) : Tree :=
  Tree.ofAlternatives (l.alternatives.reverse ++ [l.lastAlternative])

/-- Repeats the last part. -/
def rep (l : Level) (lo : Nat) (hi : Option Nat) : Except Fault Level :=
  match l.repeatable, l.parts with
  | true, t :: ts => .ok { l with parts := Tree.rep t lo hi :: ts }
  | _, _ => .error .nothingToRepeat

end Level

/-- What has been read of a pattern. -/
structure Outline where
  /-- The innermost group that is open. -/
  level : Level
  /-- What stands around it, the nearest first. -/
  outer : List Level
  /-- The names of groups. -/
  names : List (List Char)

namespace Outline

/-- Nothing has been read. -/
def start (flags : Flags) : Outline := ⟨Level.start flags false, [], []⟩

/-- One more part. -/
def add (o : Outline) (t : Tree) : Outline := { o with level := o.level.add t }

/-- One more part that consumes one character. -/
def addOne (o : Outline) (s : CharSet) : Outline := o.add (.one s 0)

/-- Opens a group. -/
def openGroup (o : Outline) (flags : Flags) (captures : Bool) : Outline :=
  { o with level := Level.start flags captures, outer := o.level :: o.outer }

/-- Takes in one token. -/
def push (o : Outline) : Token → Except Fault Outline
  | .char c => .ok (o.addOne ((CharSet.single c).foldIf o.level.flags.caseless))
  | .anyChar => .ok (o.addOne (if o.level.flags.dotAll then .all else .compl (.single '\n')))
  | .shorthand k negated => .ok (o.addOne ((CharSet.shorthand k).negateIf negated))
  | .bracket p => .ok (o.add (.one (p.toSet o.level.flags.caseless) p.height))
  | .edge a => .ok (o.add (.edge a))
  | .caret => .ok (o.add (.edge (if o.level.flags.multiLine then .lineStart else .textStart)))
  | .dollar => .ok (o.add (.edge (if o.level.flags.multiLine then .lineEnd else .textEnd)))
  | .openCapture none => .ok (o.openGroup o.level.flags true)
  | .openCapture (some name) =>
    if name ∈ o.names then .error .repeatedGroupName
    else .ok { o.openGroup o.level.flags true with names := name :: o.names }
  | .openGroup f => .ok (o.openGroup (o.level.flags.change f) false)
  | .setFlags f => .ok { o with level := o.level.setFlags f }
  | .close =>
    match o.outer with
    | [] => .error .unopenedGroup
    | l :: outer =>
      .ok { o with level := l.add (.group o.level.captures o.level.tree), outer := outer }
  | .bar => .ok { o with level := o.level.bar }
  | .repetition lo hi =>
    match o.level.rep lo hi with
    | .ok l => .ok { o with level := l }
    | .error f => .error f

/-- Takes in tokens one after the other. -/
def pushAll (o : Outline) : List Token → Except Fault Outline
  | [] => .ok o
  | t :: ts =>
    match o.push t with
    | .ok o' => o'.pushAll ts
    | .error f => .error f

/-- The tree of the pattern, once all of it has been read. -/
def finish (o : Outline) : Except Fault Tree :=
  match o.outer with
  | [] => .ok o.level.tree
  | _ :: _ => .error .unclosedGroup

end Outline

/-- The tree that tokens make, under flags that hold from the start. -/
def treeOfTokens (flags : Flags) (ts : List Token) : Except Fault Tree :=
  match (Outline.start flags).pushAll ts with
  | .ok o => o.finish
  | .error f => .error f

/-- The tree of a text, under flags that hold from its start. -/
def parse (flags : Flags) (cs : List Char) : Except Fault Tree :=
  match tokens cs with
  | .ok ts => treeOfTokens flags ts
  | .error f => .error f

/-- The flags under which patterns are read: `.` matches line breaks, and `^` and `$` hold at the
ends of the text only. -/
def baseFlags (caseless : Bool) : Flags := ⟨caseless, true, false⟩

end UsageIndex.Pattern
