import UsageIndex.DocSet
import UsageIndex.Ordered.Set
import UsageIndex.Query
import UsageIndex.Text.Quoted

/-!
# Search scopes

A scope is a list of elements, each over the sources or the dependencies. An element may declare
the packages that it is narrowed to. Only the declared packages restrict a search: `scopeFilter`
puts the restriction on a query.

* **`PackagesFilter`**: allows the documents whose package is one of some names. It reads the
  postings of each name in order; without names it reads nothing.
* **`scopePackages`**: the union of what the elements declare, if one of them declares packages.
-/

namespace UsageIndex

/-! ## Filters -/

/-- Allows the documents whose package field holds one of some names. -/
structure PackagesFilter where
  field : String
  packages : OrderedSet String
  deriving DecidableEq

namespace PackagesFilter

/-- Adds the postings of each package, up to the first that cannot be had. -/
def addPackages (s : Segment) (field : String) (b : DocSet.Builder) :
    List String → Except Error DocSet.Builder
  | [] => .ok b
  | p :: ps => do
    let docs ← s.postings ⟨field, p⟩
    let b' ← b.addPostings docs
    addPackages s field b' ps

/-- The documents that the filter allows. -/
def allowed (f : PackagesFilter) (s : Segment) : Except Error DocSet :=
  if f.packages.isEmpty then .ok (DocSet.empty s.maxDoc)
  else do
    let b ← addPackages s f.field (DocSet.Builder.new s.maxDoc) f.packages.toList
    return b.build

/-- How the filter is shown. -/
def shown (f : PackagesFilter) : String :=
  "PackagesFilter \x7b field: " ++ Text.quoted f.field ++ ", packages: \x7b"
    ++ ", ".intercalate (f.packages.toList.map Text.quoted) ++ "\x7d \x7d"

/-- The filter as one that queries take. -/
def toFilter (f : PackagesFilter) (tag : Nat) : Filter := ⟨tag, f.shown, f.allowed⟩

end PackagesFilter

/-- Allows some documents, whatever the segment; the set has a span of its own or else that of the
segment, and documents outside it are left out. -/
structure FixedFilter where
  docs : List Nat
  span : Option Nat

namespace FixedFilter

/-- The documents that the filter allows. -/
def allowed (f : FixedFilter) (s : Segment) : Except Error DocSet :=
  .ok (DocSet.ofDocs (f.span.getD s.maxDoc) f.docs)

/-- How the filter is shown. -/
def shown (f : FixedFilter) : String :=
  "FixedFilter \x7b docs: [" ++ ", ".intercalate (f.docs.map toString) ++ "], span: "
    ++ (match f.span with
      | some n => "Some(" ++ toString n ++ ")"
      | none => "None") ++ " \x7d"

/-- The filter as one that queries take. -/
def toFilter (f : FixedFilter) (tag : Nat) : Filter := ⟨tag, f.shown, f.allowed⟩

end FixedFilter

/-! ## Scopes -/

/-- The parts of a project. -/
inductive BaseScope where
  /-- The sources of the project. -/
  | source
  /-- What the project depends on. -/
  | dependencies
  deriving DecidableEq

namespace BaseScope

/-- The name of a part. -/
def name : BaseScope → String
  | source => "source"
  | dependencies => "dependencies"

end BaseScope

/-- An element of a scope. -/
structure ScopeElement where
  base : BaseScope
  /-- The packages that the element is narrowed to, if it declares any. -/
  packages : Option (OrderedSet String)
  deriving DecidableEq

namespace ScopeElement

/-- A whole part of a project. -/
def whole (base : BaseScope) : ScopeElement := ⟨base, none⟩

/-- A part of a project narrowed to packages. -/
def narrowed (base : BaseScope) (packages : List String) : ScopeElement :=
  ⟨base, some (OrderedSet.ofList packages)⟩

/-- Whether an element is over the sources. -/
def isSources (e : ScopeElement) : Bool := e.base == .source

/-- Whether an element is over the dependencies. -/
def isDependencies (e : ScopeElement) : Bool := e.base == .dependencies

end ScopeElement

/-- The union of the packages that the elements declare, on top of those found before. -/
def addScopePackages : Option (OrderedSet String) → List ScopeElement → Option (OrderedSet String)
  | found, [] => found
  | found, e :: es =>
    match e.packages with
    | some p => addScopePackages (some ((found.getD OrderedSet.empty).union p)) es
    | none => addScopePackages found es

/-- The union of the packages that the elements declare; none if no element declares any. -/
def scopePackages (scope : List ScopeElement) : Option (OrderedSet String) :=
  addScopePackages none scope

/-- A query restricted to the packages that a scope declares, or none if nothing can match. A
single package is one more clause that must match, and several are a filter with the given tag. -/
def scopeFilter (q : Query) (scope : List ScopeElement) (packageField : String) (tag : Nat) :
    Option Query :=
  match scopePackages scope with
  | none => some q
  | some packages =>
    match packages.toList with
    | [] => none
    | [p] => some (.boolean [(.must, .term ⟨packageField, p⟩), (.must, q)])
    | _ => some (.filtered q (PackagesFilter.toFilter ⟨packageField, packages⟩ tag))

end UsageIndex
