import UsageIndex.Ordered.Map
import UsageIndex.Pattern.Literal
import UsageIndex.Term
import UsageIndex.Usage.Mask

/-!
# Documents

What an index knows of a source file: the package it belongs to and the names it refers to, each
with the kinds of use.

A document that refers to a name by some kinds carries one term for that name: the name, followed
by one slot for each kind, `+` where the document uses it and `-` where it does not. A query asks
for a name with at least some kinds: as a glob, the name escaped, `+` in the slots asked for and
`?` in the others; as a pattern, where the name is a pattern already, `\+` and `.`.

* **`Encoder`**: how references become terms.
* **`Encoder.slots`**: the encoding with slots. **`Slots.decode?`** undoes it.
* **`UsageDocument.addReference`**: records kinds of a name beside those recorded before.
* **`UsageDocument.terms`**: the terms that the document carries.
-/

namespace UsageIndex

/-! ## Encoded references -/

/-- How references become terms. -/
structure Encoder where
  /-- The term that asks for references to a name with at least the kinds of a mask. The name is
  taken literally and the text is a glob, or else (`true`) both are patterns. -/
  referencesTerm : String → UsageMask → Bool → Term
  /-- The term that records that a document refers to a name with exactly the kinds of a mask. -/
  documentTerm : String → UsageMask → Term

namespace Slots

/-- The slots of a document that uses the kinds of a mask. -/
def present (m : UsageMask) : List Char :=
  UsageKind.all.map fun k => if m.contains k then '+' else '-'

/-- The slots of a glob that asks for the kinds of a mask. -/
def glob (m : UsageMask) : List Char :=
  UsageKind.all.map fun k => if m.contains k then '+' else '?'

/-- The slots of a pattern that asks for the kinds of a mask. -/
def pattern (m : UsageMask) : List Char :=
  UsageKind.all.flatMap fun k => if m.contains k then ['\\', '+'] else ['.']

/-- Whether a character fills a slot of a document. -/
def isSlot (c : Char) : Bool := c == '+' || c == '-'

/-- The kinds whose slots are filled with `+`. -/
def maskOf (slots : List Char) : UsageMask :=
  UsageMask.ofList (((UsageKind.all.zip slots).filter fun p => p.2 == '+').map Prod.fst)

/-- The name and the kinds of an encoded reference. -/
def decode? (cs : List Char) : Option (List Char × UsageMask) :=
  let n := cs.length - 6
  if 6 ≤ cs.length ∧ (cs.drop n).all isSlot then some (cs.take n, maskOf (cs.drop n)) else none

end Slots

/-- The encoding with slots, in one field. -/
def Encoder.slots (field : String) : Encoder where
  referencesTerm name m pattern :=
    if pattern then ⟨field, String.ofList (name.toList ++ Slots.pattern m)⟩
    else ⟨field, String.ofList (Glob.escape name.toList ++ Slots.glob m)⟩
  documentTerm name m := ⟨field, String.ofList (name.toList ++ Slots.present m)⟩

/-- The name and the kinds of a reference encoded with slots. -/
def decodeReference? (text : String) : Option (String × UsageMask) :=
  (Slots.decode? text.toList).map fun p => (String.ofList p.1, p.2)

/-! ## Documents -/

/-- The package of a source file and the names it refers to. -/
structure UsageDocument where
  /-- The package; empty for the unnamed one. -/
  package : String
  /-- The kinds of use of each name. -/
  references : OrderedMap String UsageMask
  deriving DecidableEq

namespace UsageDocument

/-- A document that refers to nothing. -/
def new (package : String) : UsageDocument := ⟨package, OrderedMap.empty⟩

/-- A document that also refers to a name by some kinds. -/
def addReference (d : UsageDocument) (name : String) (kinds : List UsageKind) : UsageDocument :=
  { d with
    references := d.references.alter name fun m =>
      (m.getD UsageMask.empty).union (UsageMask.ofList kinds) }

/-- The kinds by which a document refers to a name. -/
def maskOf (d : UsageDocument) (name : String) : UsageMask :=
  (d.references.find? name).getD UsageMask.empty

/-- The terms that a document carries: its package, and each name it refers to by some kind. -/
def terms (d : UsageDocument) (e : Encoder) (packageField : String) : List Term :=
  ⟨packageField, d.package⟩ ::
    (d.references.entries.filter fun r => !r.2.isEmpty).map fun r => e.documentTerm r.1 r.2

end UsageDocument

end UsageIndex
