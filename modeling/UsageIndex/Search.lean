import UsageIndex.DocSet
import UsageIndex.Query

/-!
# Search

`execute` finds the documents of a segment that a query describes. It makes the reads that the
answer depends on, in the order of the query, and no others: once a clause that must match has
left nothing, the clauses after it are not executed, and a filter of a query that found nothing is
not asked.

A document at or above the document count in postings that were read is an error in the data. A
filter that answers with a set of another span breaks a precondition.
-/

namespace UsageIndex

/-- Adds the postings of the terms of `start`'s field that begin with `start`'s text and are
accepted, up to the first term that leaves the field or the text. -/
def collectFrom (s : Segment) (start : Term) (accept : String → Bool) (b : DocSet.Builder) :
    List Term → Except Error DocSet.Builder
  | [] => .ok b
  | t :: ts =>
    if t.field = start.field ∧ Text.startsWith t.text start.text then
      if accept t.text then do
        let docs ← s.postings t
        let b' ← b.addPostings docs
        collectFrom s start accept b' ts
      else collectFrom s start accept b ts
    else .ok b

/-- The documents that carry an accepted term of `start`'s field that begins with `start`'s text. -/
def collectTerms (s : Segment) (start : Term) (accept : String → Bool) : Except Error DocSet := do
  let ts ← s.termsFrom start
  let b ← collectFrom s start accept (DocSet.Builder.new s.maxDoc) ts
  return b.build

/-- The documents that carry a term. -/
def postingsSet (s : Segment) (t : Term) : Except Error DocSet := do
  let docs ← s.postings t
  let b ← (DocSet.Builder.new s.maxDoc).addPostings docs
  return b.build

/-- The documents that carry a term that a pattern matches, read from the text on that every match
begins with. -/
def patternSet (s : Segment) (p : PatternQuery) : Except Error DocSet :=
  collectTerms s (p.term.withText p.literalPrefix) p.isMatch

/-- Whether some clause must match. -/
def hasRequired (cs : List (Occur × Query)) : Bool := cs.any fun c => c.1 == .must

/-- Whether something has been found out and it is that nothing is left. -/
def nothingLeft (found : Option DocSet) : Bool := found.any DocSet.isEmpty

/-- What has been found, narrowed to what a clause that must match finds. -/
def narrow (found : Option DocSet) (r : DocSet) : Except Failure DocSet :=
  match found with
  | some f => orViolation (f.intersect r)
  | none => .ok r

/-- What has been found, widened by what a clause that may match finds. -/
def widen (found : Option DocSet) (r : DocSet) : Except Failure DocSet :=
  match found with
  | some f => orViolation (f.union r)
  | none => .ok r

mutual

/-- The documents of a segment that a query describes. -/
def execute (s : Segment) : Query → Except Failure DocSet
  | .term t => orError (postingsSet s t)
  | .leading t => orError (collectTerms s t fun _ => true)
  | .wildcard p => orError (patternSet s p)
  | .regexp p => orError (patternSet s p)
  | .boolean cs => do
    let found ← executeClauses s (hasRequired cs) none cs
    excludeClauses s (found.getD (DocSet.empty s.maxDoc)) cs
  | .filtered q f => do
    let found ← execute s q
    if found.isEmpty then return found
    let allowed ← orError (f.allowed s)
    orViolation (found.intersect allowed)

/-- What the clauses that must match, or else those that may, describe together with what has been
found. -/
def executeClauses (s : Segment) (required : Bool) (found : Option DocSet) :
    List (Occur × Query) → Except Failure (Option DocSet)
  | [] => .ok found
  | (o, q) :: cs =>
    if o = .must then
      if nothingLeft found then executeClauses s required found cs
      else do
        let r ← execute s q
        let found' ← narrow found r
        executeClauses s required (some found') cs
    else if o = .should ∧ required = false then do
      let r ← execute s q
      let found' ← widen found r
      executeClauses s required (some found') cs
    else executeClauses s required found cs

/-- What is left of what has been found without the clauses that must not match. -/
def excludeClauses (s : Segment) (found : DocSet) :
    List (Occur × Query) → Except Failure DocSet
  | [] => .ok found
  | (o, q) :: cs =>
    if o = .mustNot ∧ found.isEmpty = false then do
      let r ← execute s q
      let found' ← orViolation (found.difference r)
      excludeClauses s found' cs
    else excludeClauses s found cs

end

end UsageIndex
