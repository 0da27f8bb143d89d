import UsageIndex.Json.Basic
import UsageIndex.Json.Token

/-!
# Reading values

The tokens of a structured text are taken in one after the other. What is open around the place
reached is kept on a stack, so that the depth of a value costs nothing but memory.

* **`Json.ofTokens?`**: the value that tokens make.
* **`Json.parse?`**: the value of a text.
-/

namespace UsageIndex.Json

/-- What is open around a place. -/
inductive Frame where
  /-- An array: the items that are complete, the last first. -/
  | array (items : List Json)
  /-- An object: the members that are complete, the last first, and the name of the next. -/
  | object (members : List (List Char × Json)) (name : List Char)

/-- What has been read of a value. -/
inductive Reading where
  /-- A value is due. -/
  | value (outer : List Frame)
  /-- An array has been opened. -/
  | arrayOpened (outer : List Frame)
  /-- An object has been opened. -/
  | objectOpened (outer : List Frame)
  /-- A name is due, behind members that are complete. -/
  | name (members : List (List Char × Json)) (outer : List Frame)
  /-- A colon is due, behind a name. -/
  | colon (members : List (List Char × Json)) (name : List Char) (outer : List Frame)
  /-- A value is complete. -/
  | complete (j : Json) (outer : List Frame)

namespace Reading

/-- Takes in a token where a value is due. -/
def beginValue (outer : List Frame) : Token → Option Reading
  | .null => some (complete .null outer)
  | .bool b => some (complete (.bool b) outer)
  | .number literal => some (complete (.number literal) outer)
  | .string spelling => some (complete (.string spelling) outer)
  | .openArray => some (arrayOpened outer)
  | .openObject => some (objectOpened outer)
  | _ => none

/-- Takes in a token where a value is complete. -/
def continueWith (j : Json) : List Frame → Token → Option Reading
  | .array items :: outer, .comma => some (value (.array (j :: items) :: outer))
  | .array items :: outer, .closeArray => some (complete (.array (j :: items).reverse) outer)
  | .object ms k :: outer, .comma => some (name ((k, j) :: ms) outer)
  | .object ms k :: outer, .closeObject => some (complete (.object ((k, j) :: ms).reverse) outer)
  | _, _ => none

/-- Takes in one token. -/
def push : Reading → Token → Option Reading
  | value outer, t => beginValue outer t
  | arrayOpened outer, .closeArray => some (complete (.array []) outer)
  | arrayOpened outer, t => beginValue (.array [] :: outer) t
  | objectOpened outer, .closeObject => some (complete (.object []) outer)
  | objectOpened outer, .string spelling => some (colon [] spelling outer)
  | objectOpened _, _ => none
  | name ms outer, .string spelling => some (colon ms spelling outer)
  | name _ _, _ => none
  | colon ms k outer, .colon => some (value (.object ms k :: outer))
  | colon _ _ _, _ => none
  | complete j outer, t => continueWith j outer t

/-- Takes in tokens one after the other. -/
def pushAll (r : Reading) : List Token → Option Reading
  | [] => some r
  | t :: ts =>
    match r.push t with
    | some r' => r'.pushAll ts
    | none => none

/-- The value, if it is complete and nothing is open around it. -/
def finish? : Reading → Option Json
  | complete j [] => some j
  | _ => none

end Reading

/-- The value that tokens make. -/
def ofTokens? (ts : List Token) : Option Json :=
  ((Reading.value []).pushAll ts).bind Reading.finish?

/-- The value of a text. -/
def parse? (text : String) : Option Json := (tokens? text.toList).bind ofTokens?

end UsageIndex.Json
