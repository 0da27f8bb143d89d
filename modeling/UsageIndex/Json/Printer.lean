import UsageIndex.Json.Assembly

/-!
# Writing values

A value is written without blanks, or over several lines with two spaces for each level.

* **`Json.parse?_compact`**: a value whose literals can be written reads back from what is written
  without blanks.
-/

namespace UsageIndex.Json

mutual

/-- The tokens of a value. -/
def tokens : Json → List Token
  | .null => [.null]
  | .bool b => [.bool b]
  | .number literal => [.number literal]
  | .string spelling => [.string spelling]
  | .array [] => [.openArray, .closeArray]
  | .array (j :: js) => .openArray :: (j.tokens ++ furtherItems js)
  | .object [] => [.openObject, .closeObject]
  | .object ((k, j) :: ms) => .openObject :: .string k :: .colon :: (j.tokens ++ furtherMembers ms)

/-- The tokens of the items behind the first, and of the end of the array. -/
def furtherItems : List Json → List Token
  | [] => [.closeArray]
  | j :: js => .comma :: (j.tokens ++ furtherItems js)

/-- The tokens of the members behind the first, and of the end of the object. -/
def furtherMembers : List (List Char × Json) → List Token
  | [] => [.closeObject]
  | (k, j) :: ms => .comma :: .string k :: .colon :: (j.tokens ++ furtherMembers ms)

end

/-- Tokens, written one after the other. -/
def spelledAll (ts : List Token) : List Char := ts.flatMap Token.spelled

/-- A value without blanks. -/
def compact (j : Json) : String := String.ofList (spelledAll j.tokens)

/-- A line break, and the spaces of a level. -/
def newLine (level : Nat) : List Char := '\n' :: List.replicate (2 * level) ' '

/-- The characters of the name of a member. -/
def layoutName (k : List Char) : List Char := '"' :: (k ++ ['"', ':', ' '])

mutual

/-- The characters of a value over several lines, at a level. -/
def layout (level : Nat) : Json → List Char
  | .array (j :: js) =>
    '[' :: (newLine (level + 1) ++ layout (level + 1) j ++ layoutItems level js)
  | .object ((k, j) :: ms) =>
    '\x7b' :: (newLine (level + 1) ++ layoutName k ++ layout (level + 1) j
      ++ layoutMembers level ms)
  | j => spelledAll j.tokens

/-- The characters of the items behind the first, and of the end of the array. -/
def layoutItems (level : Nat) : List Json → List Char
  | [] => newLine level ++ [']']
  | j :: js => ',' :: (newLine (level + 1) ++ layout (level + 1) j ++ layoutItems level js)

/-- The characters of the members behind the first, and of the end of the object. -/
def layoutMembers (level : Nat) : List (List Char × Json) → List Char
  | [] => newLine level ++ ['\x7d']
  | (k, j) :: ms =>
    ',' :: (newLine (level + 1) ++ layoutName k ++ layout (level + 1) j ++ layoutMembers level ms)

end

/-- A value over several lines. -/
def pretty (j : Json) : String := String.ofList (layout 0 j)

/-! ## What is written reads back -/

mutual

/-- The literals of a value can be written. -/
def Writable : Json → Prop
  | .number literal => (decimal? literal).isSome = true
  | .string spelling => Spelled spelling
  | .array items => WritableItems items
  | .object ms => WritableMembers ms
  | _ => True

/-- The literals of items can be written. -/
def WritableItems : List Json → Prop
  | [] => True
  | j :: js => j.Writable ∧ WritableItems js

/-- The literals of members can be written. -/
def WritableMembers : List (List Char × Json) → Prop
  | [] => True
  | (k, j) :: ms => Spelled k ∧ j.Writable ∧ WritableMembers ms

end

namespace Reading

/-- At the start of an array a value is read as anywhere else. -/
theorem pushAll_arrayOpened (outer : List Frame) (j : Json) (rest : List Token) :
    (arrayOpened outer).pushAll (j.tokens ++ rest) =
      (value (.array [] :: outer)).pushAll (j.tokens ++ rest) := by
  cases j with
  | array items => cases items <;> rfl
  | object ms =>
    cases ms with
    | nil => rfl
    | cons m ms => rfl
  | _ => rfl

mutual

/-- The tokens of a value make that value. -/
theorem pushAll_tokens : ∀ (j : Json) (outer : List Frame) (rest : List Token),
    (value outer).pushAll (j.tokens ++ rest) = (complete j outer).pushAll rest
  | .null, _, _ => rfl
  | .bool _, _, _ => rfl
  | .number _, _, _ => rfl
  | .string _, _, _ => rfl
  | .array [], _, _ => rfl
  | .array (j :: js), outer, rest => by
    show (arrayOpened outer).pushAll ((j.tokens ++ furtherItems js) ++ rest) = _
    rw [List.append_assoc, pushAll_arrayOpened, pushAll_tokens j, pushAll_furtherItems js]
    rfl
  | .object [], _, _ => rfl
  | .object ((k, j) :: ms), outer, rest => by
    show (value (.object [] k :: outer)).pushAll ((j.tokens ++ furtherMembers ms) ++ rest) = _
    rw [List.append_assoc, pushAll_tokens j, pushAll_furtherMembers ms]
    rfl

/-- The tokens of further items complete the array. -/
theorem pushAll_furtherItems : ∀ (js : List Json) (j : Json) (items : List Json)
    (outer : List Frame) (rest : List Token),
    (complete j (.array items :: outer)).pushAll (furtherItems js ++ rest) =
      (complete (.array (items.reverse ++ j :: js)) outer).pushAll rest
  | [], j, items, outer, rest => by
    show (complete (.array (j :: items).reverse) outer).pushAll rest = _
    rw [List.reverse_cons]
  | j' :: js, j, items, outer, rest => by
    show (value (.array (j :: items) :: outer)).pushAll ((j'.tokens ++ furtherItems js) ++ rest) = _
    rw [List.append_assoc, pushAll_tokens j', pushAll_furtherItems js]
    simp

/-- The tokens of further members complete the object. -/
theorem pushAll_furtherMembers : ∀ (ms : List (List Char × Json)) (j : Json) (k : List Char)
    (members : List (List Char × Json)) (outer : List Frame) (rest : List Token),
    (complete j (.object members k :: outer)).pushAll (furtherMembers ms ++ rest) =
      (complete (.object (members.reverse ++ (k, j) :: ms)) outer).pushAll rest
  | [], j, k, members, outer, rest => by
    show (complete (.object ((k, j) :: members).reverse) outer).pushAll rest = _
    rw [List.reverse_cons]
  | (k', j') :: ms, j, k, members, outer, rest => by
    show (value (.object ((k, j) :: members) k' :: outer)).pushAll
      ((j'.tokens ++ furtherMembers ms) ++ rest) = _
    rw [List.append_assoc, pushAll_tokens j', pushAll_furtherMembers ms]
    simp

end

end Reading

/-- A value is made of its tokens. -/
theorem ofTokens?_tokens (j : Json) : ofTokens? j.tokens = some j := by
  have h := Reading.pushAll_tokens j [] []
  rw [List.append_nil] at h
  rw [ofTokens?, h]
  rfl

/-- No number is carried on by a text. -/
def EndsNumber (rest : List Char) : Prop := ∀ c ∈ rest.head?, isNumberChar c = false

theorem endsNumber_cons {c : Char} {rest : List Char} (h : isNumberChar c = false) :
    EndsNumber (c :: rest) := by
  intro d hd
  cases hd
  exact h

theorem tokens?_spelledAll_cons {t : Token} {ts : List Token} {rest : List Char}
    (ht : t.Valid) (he : t.EndsBefore (spelledAll ts ++ rest)) :
    tokens? (spelledAll (t :: ts) ++ rest) = (tokens? (spelledAll ts ++ rest)).map (t :: ·) := by
  have : spelledAll (t :: ts) ++ rest = t.spelled ++ (spelledAll ts ++ rest) := by
    simp [spelledAll]
  rw [this, tokens?_spelled_append ht he]

theorem tokens?_spelledAll_single {t : Token} {rest : List Char} (ht : t.Valid)
    (he : t.EndsBefore rest) : tokens? (spelledAll [t] ++ rest) = (tokens? rest).map (t :: ·) :=
  @tokens?_spelledAll_cons t [] rest ht he

theorem spelledAll_append (ts us : List Token) :
    spelledAll (ts ++ us) = spelledAll ts ++ spelledAll us := by
  simp [spelledAll]

theorem endsNumber_furtherItems (js : List Json) (rest : List Char) :
    EndsNumber (spelledAll (furtherItems js) ++ rest) := by
  cases js <;> exact endsNumber_cons rfl

theorem endsNumber_furtherMembers (ms : List (List Char × Json)) (rest : List Char) :
    EndsNumber (spelledAll (furtherMembers ms) ++ rest) := by
  cases ms <;> exact endsNumber_cons rfl

mutual

/-- The tokens of a value are read back from what is written. -/
theorem tokens?_spelledAll : ∀ (j : Json) (rest : List Char), j.Writable → EndsNumber rest →
    tokens? (spelledAll j.tokens ++ rest) = (tokens? rest).map (j.tokens ++ ·)
  | .null, rest, _, _ => tokens?_spelledAll_single trivial trivial
  | .bool _, rest, _, _ => tokens?_spelledAll_single trivial trivial
  | .number literal, rest, hw, hr => tokens?_spelledAll_single hw hr
  | .string spelling, rest, hw, _ => tokens?_spelledAll_single hw trivial
  | .array [], rest, _, _ => by
    rw [tokens, tokens?_spelledAll_cons (t := .openArray) trivial trivial,
      tokens?_spelledAll_cons (t := .closeArray) trivial trivial,
      Option.map_map]
    rfl
  | .array (j :: js), rest, hw, hr => by
    rw [tokens, tokens?_spelledAll_cons (t := .openArray) trivial trivial, spelledAll_append,
      List.append_assoc,
      tokens?_spelledAll j _ hw.1 (endsNumber_furtherItems js rest),
      tokens?_furtherItems js rest hw.2 hr, Option.map_map, Option.map_map]
    simp [Function.comp_def]
  | .object [], rest, _, _ => by
    rw [tokens, tokens?_spelledAll_cons (t := .openObject) trivial trivial,
      tokens?_spelledAll_cons (t := .closeObject) trivial trivial,
      Option.map_map]
    rfl
  | .object ((k, j) :: ms), rest, hw, hr => by
    rw [tokens, tokens?_spelledAll_cons (t := .openObject) trivial trivial,
      tokens?_spelledAll_cons (t := .string k) hw.1 trivial,
      tokens?_spelledAll_cons (t := .colon) trivial trivial, spelledAll_append, List.append_assoc,
      tokens?_spelledAll j _ hw.2.1 (endsNumber_furtherMembers ms rest),
      tokens?_furtherMembers ms rest hw.2.2 hr, Option.map_map, Option.map_map, Option.map_map,
      Option.map_map]
    simp [Function.comp_def]

/-- The tokens of further items are read back from what is written. -/
theorem tokens?_furtherItems : ∀ (js : List Json) (rest : List Char), WritableItems js →
    EndsNumber rest →
    tokens? (spelledAll (furtherItems js) ++ rest) = (tokens? rest).map (furtherItems js ++ ·)
  | [], rest, _, _ => tokens?_spelledAll_single trivial trivial
  | j :: js, rest, hw, hr => by
    rw [furtherItems, tokens?_spelledAll_cons (t := .comma) trivial trivial, spelledAll_append,
      List.append_assoc, tokens?_spelledAll j _ hw.1 (endsNumber_furtherItems js rest),
      tokens?_furtherItems js rest hw.2 hr, Option.map_map, Option.map_map]
    simp [Function.comp_def]

/-- The tokens of further members are read back from what is written. -/
theorem tokens?_furtherMembers : ∀ (ms : List (List Char × Json)) (rest : List Char),
    WritableMembers ms → EndsNumber rest →
    tokens? (spelledAll (furtherMembers ms) ++ rest) = (tokens? rest).map (furtherMembers ms ++ ·)
  | [], rest, _, _ => tokens?_spelledAll_single trivial trivial
  | (k, j) :: ms, rest, hw, hr => by
    rw [furtherMembers, tokens?_spelledAll_cons (t := .comma) trivial trivial,
      tokens?_spelledAll_cons (t := .string k) hw.1 trivial,
      tokens?_spelledAll_cons (t := .colon) trivial trivial,
      spelledAll_append, List.append_assoc,
      tokens?_spelledAll j _ hw.2.1 (endsNumber_furtherMembers ms rest),
      tokens?_furtherMembers ms rest hw.2.2 hr, Option.map_map, Option.map_map, Option.map_map,
      Option.map_map]
    simp [Function.comp_def]

end

/-- **What is written reads back.** -/
theorem parse?_compact {j : Json} (h : j.Writable) : parse? j.compact = some j := by
  have ht := tokens?_spelledAll j [] h (by simp [EndsNumber])
  rw [List.append_nil, tokens?_nil] at ht
  rw [parse?, compact, String.toList_ofList, ht]
  simp [ofTokens?_tokens]

/-! ## What can be written -/

@[simp] theorem writable_ofText (s : String) : (ofText s).Writable := spelled_encode s.toList

theorem writable_array {items : List Json} (h : ∀ j ∈ items, j.Writable) :
    (array items).Writable := by
  show WritableItems items
  induction items with
  | nil => trivial
  | cons j js ih =>
    exact ⟨h j List.mem_cons_self, ih fun j hj => h j (List.mem_cons_of_mem _ hj)⟩

theorem writable_ofMembers {ms : List (String × Json)} (h : ∀ m ∈ ms, m.2.Writable) :
    (ofMembers ms).Writable := by
  show WritableMembers (ms.map fun m => (encode m.1.toList, m.2))
  induction ms with
  | nil => trivial
  | cons m ms ih =>
    exact ⟨spelled_encode m.1.toList, h m List.mem_cons_self,
      ih fun m hm => h m (List.mem_cons_of_mem _ hm)⟩

end UsageIndex.Json
