/-!
# Literal text in patterns

Patterns are written for literal texts and for globs. In a glob `*` stands for any text, `?` for any
one character, and a backslash takes the meaning from the character behind it; a backslash at the
end stands for itself.

* **`isMeta`**: the characters that have a meaning of their own in a pattern.
* **`escape`**: the pattern of a literal text, a backslash before each such character.
* **`isStop_eq_isMeta`**: literal text ends at these characters.
* **`leadingLiteral`**: text that a pattern asks for at its start, read off the pattern without
  reading its structure: characters that stand for themselves, up to the first that does not or
  that a repetition may make optional. It is empty for a pattern with alternatives.
* **`Glob.items`**: a glob as a list of what it asks for.
* **`Glob.isMatch`**: the matching of items against a whole text.
* **`Glob.toPattern`**: the pattern that matches the same texts.
* **`Glob.leading`**: the characters that a glob asks for before its first wildcard.
-/

namespace UsageIndex.Pattern

/-- The characters that have a meaning of their own in a pattern. -/
def metaChars : List Char :=
  ['\\', '.', '+', '*', '?', '(', ')', '|', '[', ']', '\x7b', '\x7d', '^', '$', '#', '&', '-', '~']

/-- Whether a character has a meaning of its own in a pattern. -/
def isMeta (c : Char) : Bool := decide (c ∈ metaChars)

/-- The pattern of one literal character. -/
def escapeChar (c : Char) : List Char := if isMeta c then ['\\', c] else [c]

/-- The pattern of a literal text. -/
def escape (cs : List Char) : List Char := cs.flatMap escapeChar

/-- The characters at which literal text ends, unless a backslash stands before them. -/
def stopChars : List Char :=
  ['\\', '.', '+', '*', '?', '(', ')', '|', '[', ']', '\x7b', '\x7d', '^', '$', '#', '&', '-', '~']

/-- Whether literal text ends at a character. -/
def isStop (c : Char) : Bool := decide (c ∈ stopChars)

/-- Literal text ends exactly at the characters that have a meaning of their own. -/
theorem isStop_eq_isMeta (c : Char) : isStop c = isMeta c := rfl

/-- Whether what follows makes the character before it optional. -/
def startsOptional : List Char → Bool
  | c :: _ => c == '*' || c == '?' || c == '\x7b'
  | [] => false

/-- The characters that stand for themselves, up to the first that does not or is optional. -/
def literalRun : List Char → List Char
  | [] => []
  | c :: cs =>
    if c == '\\' then
      match cs with
      | d :: ds => if isStop d && !startsOptional ds then d :: literalRun ds else []
      | [] => []
    else if isStop c || startsOptional cs then []
    else c :: literalRun cs

/-- Text that a pattern asks for at its start; empty if it cannot be told. -/
def leadingLiteral (cs : List Char) : List Char := if '|' ∈ cs then [] else literalRun cs

end UsageIndex.Pattern

namespace UsageIndex.Glob

/-! ## Globs -/

/-- What a glob asks for. -/
inductive Item where
  /-- Any text. -/
  | anyText
  /-- Any one character. -/
  | anyChar
  /-- One character. -/
  | char (c : Char)
  deriving DecidableEq

/-- The items of a glob. -/
def items : List Char → List Item
  | [] => []
  | '*' :: cs => .anyText :: items cs
  | '?' :: cs => .anyChar :: items cs
  | '\\' :: c :: cs => .char c :: items cs
  | c :: cs => .char c :: items cs

/-- Whether a whole text matches. -/
def isMatch : List Item → List Char → Bool
  | [], t => t.isEmpty
  | .anyText :: is, [] => isMatch is []
  | .anyText :: is, d :: t => isMatch is (d :: t) || isMatch (.anyText :: is) t
  | .anyChar :: _, [] => false
  | .anyChar :: is, _ :: t => isMatch is t
  | .char _ :: _, [] => false
  | .char c :: is, d :: t => c == d && isMatch is t

/-- The pattern of an item. -/
def Item.toPattern : Item → List Char
  | anyText => ['.', '*']
  | anyChar => ['.']
  | char c => Pattern.escapeChar c

/-- The pattern that matches the same texts. -/
def toPattern (is : List Item) : List Char := is.flatMap Item.toPattern

/-- The characters that a glob asks for before its first wildcard. -/
def leading : List Item → List Char
  | .char c :: is => c :: leading is
  | _ => []

/-- The glob of a literal text: a backslash before each character that has a meaning in globs. -/
def escape (cs : List Char) : List Char :=
  cs.flatMap fun c => if c == '*' || c == '?' || c == '\\' then ['\\', c] else [c]

end UsageIndex.Glob
