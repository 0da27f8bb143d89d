import UsageIndex.Error
import UsageIndex.Text.Character

/-!
# Usage masks

How a document refers to a symbol. The kinds of use have a fixed order, that of their slots in an
encoded reference; a mask is a set of kinds, one bit for each.

* **`UsageMask.contains_union`**, **`UsageMask.contains_single`**, **`UsageMask.contains_ofList`**:
  which kinds the masks have.
* **`UsageMask.ext`**: masks with the same kinds are equal.
* **`UsageMask.parse`**: reads a list of kind names with commas between them, where `all` stands for
  every kind.
-/

namespace UsageIndex

/-! ## Kinds -/

/-- How a document refers to a symbol. -/
inductive UsageKind where
  | superClass | superInterface | typeReference | methodReference | fieldReference
  | functionalImplementors
  deriving DecidableEq

namespace UsageKind

/-- The kinds, in the order of their slots. -/
def all : List UsageKind :=
  [superClass, superInterface, typeReference, methodReference, fieldReference,
    functionalImplementors]

/-- The slot of a kind. -/
def offset : UsageKind → Nat
  | superClass => 0
  | superInterface => 1
  | typeReference => 2
  | methodReference => 3
  | fieldReference => 4
  | functionalImplementors => 5

/-- The name of a kind. -/
def name : UsageKind → String
  | superClass => "super-class"
  | superInterface => "super-interface"
  | typeReference => "type-reference"
  | methodReference => "method-reference"
  | fieldReference => "field-reference"
  | functionalImplementors => "functional-implementors"

/-- The kind with a name. -/
def ofName? (s : String) : Option UsageKind := all.find? fun k => k.name == s

/-- The kind with a name, or an error that tells the name. -/
def ofName (s : String) : Except Error UsageKind :=
  match ofName? s with
  | some k => .ok k
  | none => .error (.invalidArgument "usage" ("Unrecognized usage kind: " ++ s))

theorem mem_all (k : UsageKind) : k ∈ all := by cases k <;> decide

theorem ofName?_name (k : UsageKind) : ofName? k.name = some k := by cases k <;> decide

theorem name_injective {k l : UsageKind} (h : k.name = l.name) : k = l := by
  have hname : some k = some l := by rw [← ofName?_name k, h, ofName?_name]
  exact Option.some.inj hname

end UsageKind

/-! ## Masks -/

/-- A set of usage kinds. -/
structure UsageMask where
  bits : BitVec 6
  deriving DecidableEq

namespace UsageMask

/-- No kind. -/
def empty : UsageMask := ⟨0⟩

/-- Every kind. -/
def all : UsageMask := ⟨BitVec.allOnes 6⟩

/-- The kinds whose bits a number has; bits without a kind are dropped. -/
def ofBits (n : Nat) : UsageMask := ⟨BitVec.ofNat 6 n⟩

/-- One kind. -/
def single (k : UsageKind) : UsageMask := ⟨BitVec.twoPow 6 k.offset⟩

/-- Whether a mask has a kind. -/
def contains (m : UsageMask) (k : UsageKind) : Bool := m.bits.getLsbD k.offset

/-- Whether a mask has no kind. -/
def isEmpty (m : UsageMask) : Bool := m.bits == 0

/-- The kinds of either of two masks. -/
def union (m n : UsageMask) : UsageMask := ⟨m.bits ||| n.bits⟩

/-- The kinds of a list. -/
def ofList (ks : List UsageKind) : UsageMask := ks.foldl (fun m k => m.union (single k)) empty

/-- The kinds of a mask, in the order of the slots. -/
def kinds (m : UsageMask) : List UsageKind := UsageKind.all.filter m.contains

/-- The pieces of a text between commas, without the blanks around them; empty pieces are left
out. -/
def parts (s : String) : List String :=
  (((s.toList.splitOn ',').map Text.trim).filter fun p => !p.isEmpty).map String.ofList

/-- What one part adds to a mask. -/
def addPart (m : UsageMask) (part : String) : Except Error UsageMask :=
  if part = "all" then .ok all
  else match UsageKind.ofName part with
    | .ok k => .ok (m.union (single k))
    | .error e => .error e

/-- What parts add to a mask, up to the first that is no kind. -/
def addParts (m : UsageMask) : List String → Except Error UsageMask
  | [] => .ok m
  | p :: ps =>
    match m.addPart p with
    | .ok m' => addParts m' ps
    | .error e => .error e

/-- The kinds that a text lists. -/
def parse (s : String) : Except Error UsageMask := addParts empty (parts s)

/-- The kinds with the names of a list, up to the first that is no kind. -/
def ofNames (names : List String) : Except Error UsageMask :=
  match names.mapM UsageKind.ofName with
  | .ok ks => .ok (ofList ks)
  | .error e => .error e

/-! ## Kinds of a mask -/

@[simp] theorem contains_empty (k : UsageKind) : empty.contains k = false := by
  cases k <;> decide

@[simp] theorem contains_all (k : UsageKind) : all.contains k = true := by
  cases k <;> decide

@[simp] theorem contains_single (k l : UsageKind) : (single k).contains l = decide (l = k) := by
  cases k <;> cases l <;> decide

@[simp] theorem contains_union (m n : UsageMask) (k : UsageKind) :
    (m.union n).contains k = (m.contains k || n.contains k) := by
  simp [union, contains]

theorem contains_foldl (ks : List UsageKind) (m : UsageMask) (k : UsageKind) :
    (ks.foldl (fun m k => m.union (single k)) m).contains k =
      (m.contains k || decide (k ∈ ks)) := by
  induction ks generalizing m with
  | nil => simp
  | cons l ks ih =>
    rw [List.foldl_cons, ih, contains_union, contains_single]
    by_cases h : k = l <;> simp [h]

@[simp] theorem contains_ofList (ks : List UsageKind) (k : UsageKind) :
    (ofList ks).contains k = decide (k ∈ ks) := by
  simp [ofList, contains_foldl]

/-- Masks with the same kinds are equal. -/
theorem ext {m n : UsageMask} (h : ∀ k, m.contains k = n.contains k) : m = n := by
  obtain ⟨m⟩ := m
  obtain ⟨n⟩ := n
  congr 1
  apply BitVec.eq_of_getLsbD_eq
  intro i hi
  have : i = 0 ∨ i = 1 ∨ i = 2 ∨ i = 3 ∨ i = 4 ∨ i = 5 := by omega
  rcases this with rfl | rfl | rfl | rfl | rfl | rfl
  · exact h .superClass
  · exact h .superInterface
  · exact h .typeReference
  · exact h .methodReference
  · exact h .fieldReference
  · exact h .functionalImplementors

@[simp] theorem mem_kinds {m : UsageMask} {k : UsageKind} : k ∈ m.kinds ↔ m.contains k = true := by
  simp [kinds, UsageKind.mem_all]

theorem isEmpty_iff {m : UsageMask} : m.isEmpty = true ↔ ∀ k, m.contains k = false := by
  constructor
  · intro h k
    have e : m = empty := by
      obtain ⟨m⟩ := m
      simp only [isEmpty, beq_iff_eq] at h
      rw [h]
      rfl
    rw [e, contains_empty]
  · intro h
    have e : m = empty := ext fun k => by rw [h, contains_empty]
    rw [e]
    rfl

end UsageMask

end UsageIndex
