import UsageIndex.DocSet
import UsageIndex.Pattern.Compiled
import UsageIndex.Segment
import UsageIndex.Text.Case

/-!
# Queries

A query describes which documents to find. A pattern query carries, beside the compiled pattern, a
text that every match of it begins with; the search reads the dictionary from there on.

A filter is a value that is asked once for each search which documents it allows. Filters are told
apart by a `tag`: two filtered queries are the same only if their filters have one tag.

The builders of usage queries do not make pattern nodes themselves but ask a `QueryFactory` for a
node of a kind. `QueryFactory.standard` compiles patterns that have to match a whole text.

* **`Query.same`**: when two queries count as equal.
* **`Query.shown`**: the text of a query.
* **`createQuery`**: a query of a kind.
-/

namespace UsageIndex

/-- How a clause takes part in a boolean query. -/
inductive Occur where
  /-- The clause may match. -/
  | should
  /-- The clause must match. -/
  | must
  /-- The clause must not match. -/
  | mustNot
  deriving DecidableEq

namespace Occur

/-- The name of an operator. -/
def name : Occur → String
  | should => "should"
  | must => "must"
  | mustNot => "must-not"

/-- The operators. -/
def all : List Occur := [should, must, mustNot]

/-- The operator with a name. -/
def ofName (s : String) : Except Error Occur :=
  match all.find? fun o => o.name == s with
  | some o => .ok o
  | none => .error (.invalidArgument "occur" ("Unrecognized operator: " ++ s))

/-- The mark before a clause. -/
def mark : Occur → String
  | should => ""
  | must => "+"
  | mustNot => "-"

end Occur

/-- What is asked of a query factory. -/
inductive QueryKind where
  /-- The text of the term equals the value. -/
  | exact
  /-- The text of the term starts with the value. -/
  | leading
  /-- The lower case copy of the text starts with the lower case of the value. -/
  | caselessLeading
  /-- The value is a glob. -/
  | wildcard
  /-- The value is a pattern. -/
  | regexp
  /-- The value is a pattern that matches up to case. -/
  | caselessRegexp
  deriving DecidableEq

namespace QueryKind

/-- The name of a kind. -/
def name : QueryKind → String
  | exact => "exact"
  | leading => "prefix"
  | caselessLeading => "case-insensitive-prefix"
  | wildcard => "wildcard"
  | regexp => "regexp"
  | caselessRegexp => "case-insensitive-regexp"

/-- The kinds. -/
def all : List QueryKind := [exact, leading, caselessLeading, wildcard, regexp, caselessRegexp]

/-- The kind with a name. -/
def ofName (s : String) : Except Error QueryKind :=
  match all.find? fun k => k.name == s with
  | some k => .ok k
  | none => .error (.invalidArgument "kind" ("Unrecognized query kind: " ++ s))

end QueryKind

/-- A restriction on the documents that a query may find. -/
structure Filter where
  /-- Tells filters apart. -/
  tag : Nat
  /-- How the filter is shown. -/
  shown : String
  /-- The documents of a segment that the filter allows. -/
  allowed : Segment → Except Error DocSet

/-- A pattern over the texts of one field. -/
structure PatternQuery where
  /-- The field, and the pattern as it was given. -/
  term : Term
  /-- The pattern, compiled. -/
  pattern : CompiledPattern
  /-- A text that every match begins with. -/
  literalPrefix : String
  deriving DecidableEq

namespace PatternQuery

/-- Whether a text matches. -/
def isMatch (q : PatternQuery) (t : String) : Bool := q.pattern.isMatch t

/-- Whether two pattern queries count as equal: the same field, pattern and compiled text. -/
def same (p q : PatternQuery) : Bool :=
  decide (p.term = q.term) && decide (p.pattern.source = q.pattern.source)

end PatternQuery

/-- A query. -/
inductive Query where
  /-- The documents that carry a term. -/
  | term (t : Term)
  /-- The documents that carry a term of the field whose text starts with the text. -/
  | leading (t : Term)
  /-- The documents that carry a term that a glob matches. -/
  | wildcard (p : PatternQuery)
  /-- The documents that carry a term that a pattern matches. -/
  | regexp (p : PatternQuery)
  /-- With a clause that must match, the others that may match do not count; without, one of them
  has to match. -/
  | boolean (clauses : List (Occur × Query))
  /-- The documents of a query that a filter allows. -/
  | filtered (query : Query) (filter : Filter)

namespace Query

/-- The clauses of a boolean query. -/
def clauses? : Query → Option (List (Occur × Query))
  | boolean cs => some cs
  | _ => none

/-- The query inside a filtered one. -/
def inner? : Query → Option Query
  | filtered q _ => some q
  | _ => none

/-- The pattern of a wildcard or regexp query. -/
def pattern? : Query → Option PatternQuery
  | wildcard p => some p
  | regexp p => some p
  | _ => none

mutual

/-- The text of a query. -/
def shown : Query → String
  | term t => t.shown
  | leading t => t.shown ++ "*"
  | wildcard p => p.term.shown
  | regexp p => p.term.field ++ ":/" ++ p.term.text ++ "/"
  | boolean cs => "(" ++ " ".intercalate (shownClauses cs) ++ ")"
  | filtered q f => "filtered(" ++ q.shown ++ ")->" ++ f.shown

/-- The texts of clauses. -/
def shownClauses : List (Occur × Query) → List String
  | [] => []
  | (o, q) :: cs => (o.mark ++ q.shown) :: shownClauses cs

end

mutual

/-- Whether two queries count as equal. -/
def same : Query → Query → Bool
  | term t, term u => decide (t = u)
  | leading t, leading u => decide (t = u)
  | wildcard p, wildcard q => p.same q
  | regexp p, regexp q => p.same q
  | boolean cs, boolean ds => sameClauses cs ds
  | filtered p f, filtered q g => p.same q && f.tag == g.tag
  | _, _ => false

/-- Whether clauses count as equal, one by one. -/
def sameClauses : List (Occur × Query) → List (Occur × Query) → Bool
  | [], [] => true
  | (o, p) :: cs, (o', q) :: ds => decide (o = o') && p.same q && sameClauses cs ds
  | _, _ => false

end

end Query

/-! ## Factories -/

/-- Makes a query from a field, the field of the lower case copy, a value and a kind. -/
structure QueryFactory where
  create : String → String → String → QueryKind → Except Error Query

namespace PatternQuery

/-- The query of a glob over the texts of a field. -/
def ofGlob (t : Term) : Except Error PatternQuery :=
  let items := Glob.items t.text.toList
  match CompiledPattern.compile t.text (Glob.toPattern items) false with
  | .ok p => .ok ⟨t, p, String.ofList (Glob.leading items)⟩
  | .error e => .error e

/-- The query of a pattern over the texts of a field, up to case or not. -/
def ofPattern (t : Term) (caseless : Bool) : Except Error PatternQuery :=
  match CompiledPattern.compile t.text t.text.toList caseless with
  | .ok p =>
    .ok ⟨t, p, if caseless then "" else String.ofList (Pattern.leadingLiteral t.text.toList)⟩
  | .error e => .error e

end PatternQuery

/-- A query of a kind. The field is that of the terms, and `caselessField` that of their lower case
copies. -/
def createQuery (field caselessField value : String) (kind : QueryKind) : Except Error Query := do
  verifyArgument (!field.isEmpty) "field" "!field.is_empty()"
  verifyArgument (!caselessField.isEmpty) "case_insensitive_field"
    "!case_insensitive_field.is_empty()"
  match kind with
  | .exact => return .term ⟨field, value⟩
  | .leading => return .leading ⟨field, value⟩
  | .caselessLeading => return .leading ⟨caselessField, Text.lowercase value⟩
  | .wildcard => return .wildcard (← PatternQuery.ofGlob ⟨field, value⟩)
  | .regexp => return .regexp (← PatternQuery.ofPattern ⟨field, value⟩ false)
  | .caselessRegexp => return .regexp (← PatternQuery.ofPattern ⟨caselessField, value⟩ true)

/-- The factory that makes every kind of query as `createQuery` does. -/
def QueryFactory.standard : QueryFactory := ⟨createQuery⟩

end UsageIndex
