import UsageIndex.Command.Request
import UsageIndex.Json.Printer
import UsageIndex.Listing
import UsageIndex.Options.Json

/-!
# Running commands

A command reads the options and the listing, makes an index of it in memory and prints its report:
the documents that a search found, the packages of an index, or what an index holds. The first step
that fails decides what is reported.

* **`Command.usagesReport`**, **`Command.packagesReport`**, **`Command.inspectReport`**: the
  reports.
* **`Command.run`**: what arguments lead to, given the contents of files.
* **`Command.paths`**: the files whose contents that may depend on.
-/

namespace UsageIndex.Command

/-! ## Reports -/

/-- A document that was found: its number, its path if the listing tells it, and its package. -/
def matchReport (doc : Nat) (d : ListedDocument) : Json :=
  .ofMembers (("doc", .ofNat doc) ::
    (match d.path with
      | some p => [("path", .ofText p)]
      | none => []) ++ [("package", .ofText d.document.package)])

/-- The documents of a listing that were found. -/
def matchReports (l : Listing) (found : DocSet) : List Json :=
  found.toList.filterMap fun doc => (l.documents[doc]?).map (matchReport doc)

/-- What a search asked for and found. The query is missing if the scope was empty. -/
def usagesReport (target : String) (m : UsageMask) (operator : Occur) (q : Option Query)
    (found : List Json) : Json :=
  .ofMembers ([("target", .ofText target),
      ("kinds", .array (m.kinds.map fun k => .ofText k.name)),
      ("operator", .ofText operator.name)]
    ++ (match q with
      | some q => [("query", .ofText q.shown)]
      | none => [])
    ++ [("matches", .array found)])

/-- The packages, one to a line. -/
def packagesReport (names : OrderedSet String) : String :=
  String.join (names.toList.map fun n => (if n.isEmpty then "<unnamed>" else n) ++ "\n")

/-- How many terms a field has, and in how many postings they stand. -/
structure FieldCounts where
  terms : Nat
  postings : Nat
  deriving DecidableEq

/-- The counts of each field. -/
def fieldCounts (stats : List (Term × Nat)) : OrderedMap String FieldCounts :=
  stats.foldl (fun m s => m.alter s.1.field fun c =>
    let c := c.getD ⟨0, 0⟩
    ⟨c.terms + 1, c.postings + s.2⟩) OrderedMap.empty

/-- The number of references by a kind: each term of the references field that is an encoded
reference counts in each of its documents. -/
def kindCount (referencesField : String) (stats : List (Term × Nat)) (k : UsageKind) : Nat :=
  stats.foldl (fun n s =>
    if s.1.field = referencesField ∧ (decodeReference? s.1.text).any fun r => r.2.contains k then
      n + s.2
    else n) 0

/-- The number of references by each kind, in the order of their names. -/
def kindCounts (referencesField : String) (stats : List (Term × Nat)) : OrderedMap String Nat :=
  UsageKind.all.foldl (fun m k => m.insert k.name (kindCount referencesField stats k))
    OrderedMap.empty

/-- A term and the number of its documents. -/
def termReport (s : Term × Nat) : Json :=
  .ofMembers [("field", .ofText s.1.field), ("text", .ofText s.1.text), ("doc_freq", .ofNat s.2)]

/-- What an index holds. The terms are listed only if they are asked for. -/
def inspectReport (referencesField : String) (m : MemorySegment) (verbose : Bool) : Json :=
  let stats := m.termStats
  .ofMembers ([("document_count", .ofNat m.maxDoc), ("term_count", .ofNat m.termCount),
      ("fields", .ofMembers ((fieldCounts stats).entries.map fun f =>
        (f.1, .ofMembers [("term_count", .ofNat f.2.terms),
          ("posting_count", .ofNat f.2.postings)]))),
      ("usages", .ofMembers ((kindCounts referencesField stats).entries.map fun u =>
        (u.1, .ofNat u.2)))]
    ++ (if verbose && !stats.isEmpty then [("terms", .array (stats.map termReport))] else []))

/-! ## Commands -/

/-- Why a command prints no report. -/
inductive Problem where
  | unreadableConfig (path : String)
  | invalidConfig (path : String) (cause : Error)
  | unreadableListing (path : String)
  | malformedListing (path : String)
  | failure (f : Failure)
  deriving DecidableEq

/-- The text of a problem. -/
def Problem.message : Problem → String
  | unreadableConfig path => "Failed to read config " ++ path
  | invalidConfig path _ => "Invalid config " ++ path
  | unreadableListing path => "Failed to read index listing " ++ path
  | malformedListing path => "Failed to parse index listing " ++ path
  | failure f => f.message

/-- A computation that may report an error, as a step of a command. -/
def orProblem {α : Type} : Except Error α → Except Problem α
  | .ok a => .ok a
  | .error e => .error (.failure (.error e))

/-- An index in memory, and what it was made from. -/
structure OpenIndex where
  session : Session
  listing : Listing
  segment : MemorySegment

namespace IndexSource

/-- The options of a command. -/
def options (s : IndexSource) (contents : String → Option String) :
    Except Problem SessionOptions :=
  match s.config with
  | none => .ok SessionOptions.standard
  | some path =>
    match contents path with
    | none => .error (.unreadableConfig path)
    | some text =>
      match SessionOptions.read text with
      | .ok o => .ok o
      | .error e => .error (.invalidConfig path e)

/-- The listing of a command. -/
def readListing (s : IndexSource) (contents : String → Option String) : Except Problem Listing :=
  match contents s.listing with
  | none => .error (.unreadableListing s.listing)
  | some text =>
    match Listing.parse? text with
    | some l => .ok l
    | none => .error (.malformedListing s.listing)

/-- The index of a command. -/
def openIndex (s : IndexSource) (contents : String → Option String) : Except Problem OpenIndex := do
  let options ← s.options contents
  let session ← orProblem (Session.new options)
  let listing ← s.readListing contents
  return ⟨session, listing, listing.index session⟩

end IndexSource

namespace OpenIndex

/-- The query for a target. -/
def query (i : OpenIndex) (target : Target) (m : UsageMask) (operator : Occur) :
    Except Error Query :=
  match target with
  | .name s => i.session.usagesQuery s m operator
  | .package s => i.session.packageUsagesQuery s m operator

/-- The report of a search. -/
def usages (i : OpenIndex) (terms : SearchTerms) (target : Target) : Except Problem String := do
  let m ← orProblem (UsageMask.parse terms.kinds)
  let operator ← orProblem (Occur.ofName terms.operator)
  let q ← orProblem (i.query target m operator)
  let restricted := i.session.scopeFilter q terms.scope 0
  let found ← match restricted with
    | none => .ok []
    | some q =>
      match execute i.segment.segment q with
      | .ok found => .ok (matchReports i.listing found)
      | .error f => .error (.failure f)
  return (usagesReport target.text m operator restricted found).pretty ++ "\n"

/-- The report of the packages. -/
def packages (i : OpenIndex) (leading : Option String) (directOnly : Bool) :
    Except Problem String := do
  let names ← orProblem (i.session.packageNames i.segment.segment leading directOnly)
  return packagesReport names

/-- The report of what the index holds. -/
def inspect (i : OpenIndex) (verbose : Bool) : String :=
  (inspectReport i.session.options.fields.references i.segment verbose).pretty ++ "\n"

end OpenIndex

/-- The report of a request, given the contents of files. -/
def Request.report (r : Request) (contents : String → Option String) : Except Problem String := do
  let i ← r.source.openIndex contents
  match r with
  | .usages _ terms target => i.usages terms target
  | .packages _ leading directOnly => i.packages leading directOnly
  | .inspect _ verbose => return i.inspect verbose

/-- What a command leads to. -/
inductive Outcome where
  /-- A text is printed. -/
  | printed (text : String)
  /-- The command fails, and the problem is told. -/
  | failed (p : Problem)
  /-- The arguments make no sense. -/
  | misused
  deriving DecidableEq

/-- The version of the program. -/
def versionText : String := "symref-cmd 0.1.0\n"

/-- How the program is used. -/
def helpText : String :=
  "Command-line utility for symbol usage queries\n\n"
    ++ "Usage: symref-cmd <COMMAND> --index <PATH> [--config <PATH>] ...\n\n"
    ++ "Commands:\n"
    ++ "  usages          [--kinds <KINDS>] [--operator <OPERATOR>] [--in-package <PACKAGE>]...\n"
    ++ "                  [--dependencies] <NAME>\n"
    ++ "  package-usages  the same, with <PACKAGE> for <NAME>\n"
    ++ "  packages        [--prefix <PREFIX>] [--direct-only]\n"
    ++ "  inspect         [--verbose]\n"

/-- What arguments lead to, given the contents of files. -/
def run (contents : String → Option String) (args : List String) : Outcome :=
  match Request.ofArguments args with
  | .error .help => .printed helpText
  | .error .version => .printed versionText
  | .error .misuse => .misused
  | .ok r =>
    match r.report contents with
    | .ok text => .printed text
    | .error p => .failed p

/-- The files whose contents the outcome may depend on. -/
def paths (args : List String) : List String :=
  match Request.ofArguments args with
  | .ok r => r.source.listing :: r.source.config.toList
  | .error _ => []

end UsageIndex.Command
