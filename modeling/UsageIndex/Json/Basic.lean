import UsageIndex.Json.Number
import UsageIndex.Json.Spelling

/-!
# Structured values

A value as a structured text has it: literals are kept as they are written, members in the order in
which they are written, and a name may stand more than once. What a literal means is asked where it
matters: a part that nobody reads may hold a string without a text or a number without a value.

* **`Json.text?`**: the text of a string.
* **`Json.record?`**: the fields of a record, written as an object or as an array.
* **`Json.isLoadable`**: whether a value can be kept for later: each of its strings has a text, each
  of its numbers is near a double, and its arrays and objects are not nested too deeply.
-/

namespace UsageIndex

/-- A structured value. -/
inductive Json where
  | null
  | bool (b : Bool)
  /-- A number, as it is written. -/
  | number (literal : List Char)
  /-- A string, as it is written between the quotes. -/
  | string (spelling : List Char)
  | array (items : List Json)
  /-- The names of members are kept as they are written between the quotes. -/
  | object (members : List (List Char × Json))

namespace Json

/-- The string of a text. -/
def ofText (s : String) : Json := .string (encode s.toList)

/-- The number of a natural number. -/
def ofNat (n : Nat) : Json := .number (Nat.toDigits 10 n)

/-- The object with members of given names. -/
def ofMembers (ms : List (String × Json)) : Json :=
  .object (ms.map fun m => (encode m.1.toList, m.2))

/-- The text of a spelling, as a string. -/
def decodeText? (spelling : List Char) : Option String := (decode? spelling).map String.ofList

/-- The text of a string. -/
def text? : Json → Option String
  | .string s => decodeText? s
  | _ => none

/-- Whether a value is `null`. -/
def isNull : Json → Bool
  | .null => true
  | _ => false

/-- The items of an array. -/
def items? : Json → Option (List Json)
  | .array items => some items
  | _ => none

/-- Reads the names of members. -/
def decodeNames? : List (List Char × Json) → Option (List (String × Json))
  | [] => some []
  | (k, v) :: ms =>
    match decodeText? k, decodeNames? ms with
    | some name, some rest => some ((name, v) :: rest)
    | _, _ => none

/-- The members of an object, their names read. -/
def members? : Json → Option (List (String × Json))
  | .object ms => decodeNames? ms
  | _ => none

/-- The fields of a record that are present, none of them twice. -/
structure Record where
  present : List (String × Json)

/-- The value of a field that is present. -/
def Record.get? (r : Record) (name : String) : Option Json := r.present.lookup name

/-- The text of a field, or another text if the field is missing. -/
def Record.textOr? (r : Record) (name standard : String) : Option String :=
  match r.get? name with
  | some j => j.text?
  | none => some standard

/-- The fields with the given names among the members of an object. A member of another name is
left out, or refused if the record is closed. No field may stand twice. -/
def fields? (names : List String) (closed : Bool) (ms : List (String × Json)) : Option Record :=
  let known := ms.filter fun m => decide (m.1 ∈ names)
  if closed = true ∧ known.length ≠ ms.length then none
  else if (known.map Prod.fst).Nodup then some ⟨known⟩
  else none

/-- The fields of a record with the given names. It is written as an object, or else as an array
of the fields in order, the last of which may be missing. -/
def record? (names : List String) (closed : Bool) : Json → Option Record
  | .object ms => (decodeNames? ms).bind (fields? names closed)
  | .array items => if items.length ≤ names.length then some ⟨names.zip items⟩ else none
  | _ => none

/-! ## What is written reads back -/

@[simp] theorem decodeText?_encode (s : String) : decodeText? (encode s.toList) = some s := by
  simp [decodeText?, decode?_encode]

@[simp] theorem text?_ofText (s : String) : (ofText s).text? = some s := decodeText?_encode s

theorem Record.textOr?_of_lookup {r : Record} {name standard t : String}
    (h : r.present.lookup name = some (ofText t)) : r.textOr? name standard = some t := by
  unfold textOr? get?
  rw [h]
  exact text?_ofText t

theorem members?_ofMembers (ms : List (String × Json)) : (ofMembers ms).members? = some ms := by
  induction ms with
  | nil => rfl
  | cons m ms ih =>
    have ih : decodeNames? (ms.map fun m => (encode m.1.toList, m.2)) = some ms := ih
    simp [ofMembers, members?, decodeNames?, ih]

@[simp] theorem record?_ofMembers (names : List String) (closed : Bool)
    (ms : List (String × Json)) :
    (ofMembers ms).record? names closed = fields? names closed ms := by
  have h : decodeNames? (ms.map fun m => (encode m.1.toList, m.2)) = some ms :=
    members?_ofMembers ms
  simp [ofMembers, record?, h]

end Json

end UsageIndex

namespace UsageIndex.Json

/-! ## Loadable values -/

mutual

/-- Whether a value can be kept, with arrays and objects nested up to a number of levels. -/
def isLoadable (levels : Nat) : Json → Bool
  | .null => true
  | .bool _ => true
  | .number literal => (decimal? literal).any Decimal.fitsDouble
  | .string spelling => (decode? spelling).isSome
  | .array items => decide (0 < levels) && areLoadable (levels - 1) items
  | .object ms => decide (0 < levels) && membersLoadable (levels - 1) ms

/-- Whether all items can be kept. -/
def areLoadable (levels : Nat) : List Json → Bool
  | [] => true
  | j :: js => j.isLoadable levels && areLoadable levels js

/-- Whether all members can be kept. -/
def membersLoadable (levels : Nat) : List (List Char × Json) → Bool
  | [] => true
  | (k, j) :: ms => (decode? k).isSome && j.isLoadable levels && membersLoadable levels ms

end

end UsageIndex.Json
