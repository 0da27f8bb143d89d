import UsageIndex.Document
import UsageIndex.Json.Printer

/-!
# Documents as structured texts

A document is a record with a package and with references, an object that has for each name the
list of the kinds of use. Both may be missing, other members are left out, and of a name that stands
more than once the last entry counts. A kind is written as its name, or as an object whose only
member has that name and holds nothing.

* **`UsageDocument.ofRecord?`**: the document of the fields of a record.
-/

namespace UsageIndex

namespace UsageKind

/-- A kind as a value. -/
def toJson (k : UsageKind) : Json := .ofText k.name

/-- The kind of a value. `isNothing` tells what holds nothing. -/
def ofJson? (isNothing : Json → Bool) : Json → Option UsageKind
  | .string spelling => (Json.decodeText? spelling).bind ofName?
  | .object [(name, j)] =>
    if isNothing j then (Json.decodeText? name).bind ofName? else none
  | _ => none

end UsageKind

namespace UsageDocument

/-- The names of the members. -/
def memberNames : List String := ["package", "references"]

/-- A document as a value. -/
def toJson (d : UsageDocument) : Json :=
  .ofMembers [
    ("package", .ofText d.package),
    ("references", .ofMembers (d.references.entries.map fun r =>
      (r.1, .array (r.2.kinds.map UsageKind.toJson))))]

/-- The kinds of a list of kinds. -/
def kindsOfJson? (isNothing : Json → Bool) (j : Json) : Option UsageMask :=
  (j.items?.bind fun items => items.mapM (UsageKind.ofJson? isNothing)).map UsageMask.ofList

/-- Adds the references of members; the last entry of a name counts. -/
def addEntries? (isNothing : Json → Bool) (refs : OrderedMap String UsageMask) :
    List (String × Json) → Option (OrderedMap String UsageMask)
  | [] => some refs
  | (name, j) :: ms =>
    match kindsOfJson? isNothing j with
    | some m => addEntries? isNothing (refs.insert name m) ms
    | none => none

/-- The references of an object. -/
def referencesOfJson? (isNothing : Json → Bool) (j : Json) : Option (OrderedMap String UsageMask) :=
  j.members?.bind (addEntries? isNothing OrderedMap.empty)

/-- The document of the fields of a record. -/
def ofRecord? (isNothing : Json → Bool) (r : Json.Record) : Option UsageDocument := do
  let package ← r.textOr? "package" ""
  match r.get? "references" with
  | some j => return ⟨package, ← referencesOfJson? isNothing j⟩
  | none => return new package

/-- The document of a value. -/
def ofJson? (j : Json) : Option UsageDocument :=
  (j.record? memberNames false).bind (ofRecord? Json.isNull)

/-- The document of a structured text. -/
def parse? (s : String) : Option UsageDocument := (Json.parse? s).bind ofJson?

end UsageDocument

end UsageIndex
