import UsageIndex.Error
import UsageIndex.Ordered.Map
import UsageIndex.Term

/-!
# Segments

A `Segment` is what a query reads of an index: a document count, the postings of each term and the
dictionary from a term on. The two reads may fail, and nothing is assumed of what they yield: the
search reports postings at or above `maxDoc`.

A segment in memory is made by adding documents one after the other, each as a list of terms; they
are numbered in that order. A term that a document carries more than once is recorded once.
`MemorySegment.Builder.build` freezes the documents added so far. Numbers do not run out: that a
document is refused (`InvalidOperation`) once 2^32 documents have been numbered is left out.

* **`MemorySegment.segment`**: what queries read. No read fails.
* **`MemorySegment.termStats`**: the dictionary with the number of documents of each term.
-/

namespace UsageIndex

/-- Read access to one part of an index. -/
structure Segment where
  /-- The number of documents. -/
  maxDoc : Nat
  /-- The documents that carry a term. -/
  postings : Term → Except Error (List Nat)
  /-- The terms of the dictionary that are not below a term, in the order of the dictionary. -/
  termsFrom : Term → Except Error (List Term)

/-! ## Segments in memory -/

/-- The documents added so far. -/
structure MemorySegment where
  /-- The documents that carry each term, ascending. -/
  dictionary : OrderedMap Term (List Nat)
  /-- The number of documents. -/
  maxDoc : Nat

namespace MemorySegment

/-- The number of terms that some document carries. -/
def termCount (m : MemorySegment) : Nat := m.dictionary.size

/-- The dictionary with the number of documents of each term. -/
def termStats (m : MemorySegment) : List (Term × Nat) :=
  (m.dictionary.mapValues List.length).entries

/-- The documents that carry a term. -/
def postings (m : MemorySegment) (t : Term) : List Nat := (m.dictionary.find? t).getD []

/-- The terms of the dictionary that are not below `start`. -/
def termsFrom (m : MemorySegment) (start : Term) : List Term :=
  m.dictionary.keys.dropWhile fun t => decide (t < start)

/-- What queries read. -/
def segment (m : MemorySegment) : Segment where
  maxDoc := m.maxDoc
  postings t := .ok (m.postings t)
  termsFrom start := .ok (m.termsFrom start)

/-- The segment without documents. -/
def empty : MemorySegment := ⟨OrderedMap.empty, 0⟩

/-- Collects documents for a segment. -/
structure Builder where
  /-- The documents that carry each term, the newest first. -/
  dictionary : OrderedMap Term (List Nat)
  /-- The number of the next document. -/
  nextDoc : Nat

namespace Builder

/-- No documents. -/
def new : Builder := ⟨OrderedMap.empty, 0⟩

/-- Puts a document in front of a postings list, unless it is there already. -/
def record (doc : Nat) (docs : List Nat) : List Nat :=
  if docs.head? = some doc then docs else doc :: docs

/-- Adds a document that carries the given terms. The answer is its number. -/
def addDocument (b : Builder) (terms : List Term) : Builder × Nat :=
  (⟨terms.foldl (fun m t => m.alter t fun docs => record b.nextDoc (docs.getD [])) b.dictionary,
    b.nextDoc + 1⟩, b.nextDoc)

/-- Adds documents in order. -/
def addDocuments (b : Builder) (docs : List (List Term)) : Builder :=
  docs.foldl (fun b terms => (b.addDocument terms).1) b

/-- The segment of the documents added. -/
def build (b : Builder) : MemorySegment := ⟨b.dictionary.mapValues List.reverse, b.nextDoc⟩

end Builder

/-- The segment of the documents of a list. -/
def ofDocuments (docs : List (List Term)) : MemorySegment := (Builder.new.addDocuments docs).build

end MemorySegment

end UsageIndex
