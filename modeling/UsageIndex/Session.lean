import UsageIndex.Document
import UsageIndex.Options
import UsageIndex.Packages
import UsageIndex.Query
import UsageIndex.Scope
import UsageIndex.Search

/-!
# Sessions

A session answers usage queries over one index. It has an encoder of references, a query factory
and valid options. Its queries are for the documents that refer to a name, or to any name directly
in a package, by some kinds.

* With `should`, one of the kinds is enough: each has a clause of its own.
* With `must`, one name has to be referred to by all the kinds together: a document carries one term
  for each name, so that a single term asks for all of them.

The functions of a session:

* **`Session.findUsages`**, **`Session.findPackageUsages`**: the documents within a scope that refer
  to a name, or to a name directly in a package.
* **`Session.packageNames`**: the packages of a segment.
* **`Session.documentTerms`**: the terms that a document carries in the index.
-/

namespace UsageIndex

/-! ## Usage queries -/

/-- The pattern of the names directly in a package: the package, a dot and a text without dots. In
the unnamed package it is a text without dots. -/
def packagePattern (package : String) : String :=
  let simpleName := ['[', '^', '\\', '.', ']', '+']
  if package.isEmpty then String.ofList simpleName
  else String.ofList (Pattern.escape package.toList ++ ['\\', '.'] ++ simpleName)

/-- Makes usage queries. -/
structure UsageQueryBuilder where
  encoder : Encoder
  factory : QueryFactory
  /-- The field of the lower case copies; without one, the field of the encoded term. -/
  caselessField : Option String

namespace UsageQueryBuilder

/-- The query of one encoded term. -/
def ofTerm (b : UsageQueryBuilder) (t : Term) (pattern : Bool) : Except Error Query :=
  b.factory.create t.field (b.caselessField.getD t.field) t.text
    (if pattern then .regexp else .wildcard)

/-- The query for a name with at least the kinds of a mask together. -/
def together (b : UsageQueryBuilder) (name : String) (m : UsageMask) (pattern : Bool) :
    Except Error Query :=
  b.ofTerm (b.encoder.referencesTerm name m pattern) pattern

/-- A clause for each kind of a list, up to the first that has no query. -/
def clauses (b : UsageQueryBuilder) (name : String) (pattern : Bool) :
    List UsageKind → Except Error (List (Occur × Query))
  | [] => .ok []
  | k :: ks =>
    match b.together name (UsageMask.single k) pattern with
    | .error e => .error e
    | .ok q =>
      match clauses b name pattern ks with
      | .error e => .error e
      | .ok cs => .ok ((.should, q) :: cs)

/-- The query for a name, literal or a pattern, by the kinds of a mask under an operator. -/
def compose (b : UsageQueryBuilder) (name : String) (m : UsageMask) (operator : Occur)
    (pattern : Bool) : Except Error Query :=
  match operator with
  | .should =>
    match b.clauses name pattern m.kinds with
    | .ok cs => .ok (.boolean cs)
    | .error e => .error e
  | .must => b.together name m pattern
  | .mustNot =>
    .error (.invalidArgument "operator"
      ("unsupported operator for usage queries: " ++ operator.name))

/-- The query for the documents that refer to a name. -/
def usagesQuery (b : UsageQueryBuilder) (name : String) (m : UsageMask) (operator : Occur) :
    Except Error Query := do
  verifyArgument (!name.isEmpty) "resource_name" "!resource_name.is_empty()"
  verifyArgument (!m.isEmpty) "mask" "!mask.is_empty()"
  b.compose name m operator false

/-- The query for the documents that refer to a name directly in a package. -/
def packageUsagesQuery (b : UsageQueryBuilder) (package : String) (m : UsageMask)
    (operator : Occur) : Except Error Query := do
  verifyArgument (!m.isEmpty) "mask" "!mask.is_empty()"
  b.compose (packagePattern package) m operator true

end UsageQueryBuilder

/-! ## Sessions -/

/-- What answers usage queries over one index. -/
structure Session where
  encoder : Encoder
  factory : QueryFactory
  options : SessionOptions

namespace Session

/-- A session with an encoder and a factory of the caller's. -/
def withCollaborators (options : SessionOptions) (encoder : Encoder) (factory : QueryFactory) :
    Except Error Session :=
  match options.validate with
  | .ok () => .ok ⟨encoder, factory, options⟩
  | .error e => .error e

/-- A session with the encoding with slots and the standard factory. -/
def new (options : SessionOptions) : Except Error Session :=
  withCollaborators options (Encoder.slots options.fields.references) QueryFactory.standard

/-- The field of packages. -/
def packageField (s : Session) : String := s.options.fields.packageName

/-- What makes the usage queries of the session. -/
def queryBuilder (s : Session) : UsageQueryBuilder :=
  ⟨s.encoder, s.factory, some s.options.fields.referencesCaseless⟩

/-- The query for the documents that refer to a name. -/
def usagesQuery (s : Session) (name : String) (m : UsageMask) (operator : Occur) :
    Except Error Query :=
  s.queryBuilder.usagesQuery name m operator

/-- The query for the documents that refer to a name directly in a package. -/
def packageUsagesQuery (s : Session) (package : String) (m : UsageMask) (operator : Occur) :
    Except Error Query :=
  s.queryBuilder.packageUsagesQuery package m operator

/-- A query restricted to a scope. -/
def scopeFilter (s : Session) (q : Query) (scope : List ScopeElement) (tag : Nat) :
    Option Query :=
  UsageIndex.scopeFilter q scope s.packageField tag

/-- The documents of a segment that a query describes within a scope. -/
def search (s : Session) (segment : Segment) (q : Query) (scope : List ScopeElement) :
    Except Failure DocSet :=
  match s.scopeFilter q scope 0 with
  | some q => execute segment q
  | none => .ok (DocSet.empty segment.maxDoc)

/-- The documents of a segment within a scope that refer to a name. -/
def findUsages (s : Session) (segment : Segment) (name : String) (m : UsageMask)
    (operator : Occur) (scope : List ScopeElement) : Except Failure DocSet := do
  let q ← orError (s.usagesQuery name m operator)
  s.search segment q scope

/-- The documents of a segment within a scope that refer to a name directly in a package. -/
def findPackageUsages (s : Session) (segment : Segment) (package : String) (m : UsageMask)
    (operator : Occur) (scope : List ScopeElement) : Except Failure DocSet := do
  let q ← orError (s.packageUsagesQuery package m operator)
  s.search segment q scope

/-- The package names that begin with a text, cut to the first level below it or not. -/
def packageNames (s : Session) (segment : Segment) (leading : Option String)
    (directOnly : Bool) : Except Error (OrderedSet String) :=
  UsageIndex.packageNames segment (PackageNames.under s.packageField leading directOnly)

/-- The terms that a document carries. -/
def documentTerms (s : Session) (d : UsageDocument) : List Term :=
  d.terms s.encoder s.packageField

/-- How a session is shown. -/
def shown (s : Session) : String := "UsagesSession \x7b options: " ++ s.options.shown ++ ", .. \x7d"

end Session

end UsageIndex
