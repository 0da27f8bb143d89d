import UsageIndex.Document.Json
import UsageIndex.Json.Basic
import UsageIndex.Segment
import UsageIndex.Session

/-!
# Listings

A listing is a structured text with the documents of an index, in the order in which they are
numbered. Each document may tell the path of its source file beside its package and references.

* **`Listing.parse?`**: the listing of a text.
* **`Listing.index`**: the segment of its documents.
-/

namespace UsageIndex

/-- A document of a listing. -/
structure ListedDocument where
  /-- The path of the source file, if the listing tells it. -/
  path : Option String
  document : UsageDocument

/-- The documents of an index. -/
structure Listing where
  documents : List ListedDocument

namespace ListedDocument

/-- How deep the arrays and objects of a member may be nested. -/
def maxLevels : Nat := 124

/-- Whether a value holds nothing: `null`, or an object without members. -/
def holdsNothing : Json → Bool
  | .null => true
  | .object [] => true
  | _ => false

/-- The path that the members of a document tell, at most once. -/
def pathOfMembers? (ms : List (String × Json)) : Option (Option String) :=
  match ms.filter fun m => m.1 == "path" with
  | [] => some none
  | [(_, .null)] => some none
  | [(_, j)] => j.text?.map some
  | _ => none

/-- The document of an object. Members that are left out have to be loadable too. -/
def ofJson? (j : Json) : Option ListedDocument := do
  let ms ← j.members?
  let path ← pathOfMembers? ms
  let others := ms.filter fun m => m.1 != "path"
  if others.all fun m => m.2.isLoadable maxLevels then
    let r ← Json.fields? UsageDocument.memberNames false others
    return ⟨path, ← UsageDocument.ofRecord? holdsNothing r⟩
  else none

end ListedDocument

namespace Listing

/-- The listing of a value. -/
def ofJson? (j : Json) : Option Listing := do
  let r ← j.record? ["documents"] false
  let documents ← r.get? "documents"
  let items ← documents.items?
  return ⟨← items.mapM ListedDocument.ofJson?⟩

/-- The listing of a structured text. -/
def parse? (s : String) : Option Listing := (Json.parse? s).bind ofJson?

/-- The segment of the documents of a listing. -/
def index (l : Listing) (s : Session) : MemorySegment :=
  MemorySegment.ofDocuments (l.documents.map fun d => s.documentTerms d.document)

end Listing

end UsageIndex
