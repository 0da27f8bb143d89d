import UsageIndex.Pattern.Expr
import UsageIndex.Pattern.Literal

/-!
# Escapes

What a backslash and the characters behind it stand for: a character, a class of characters or an
assertion. A reader is given what follows the backslash, and its answer is what was read and the
rest, or the `Fault` for which a text is not a pattern. The classes `\p` and `\P` of Unicode
properties are outside the dialect; a backslash before these letters is a fault.

* **`readEscape_suffix`**: the rest is the end of what the reader was given.
-/

namespace UsageIndex.Pattern

/-! ## Faults -/

/-- Why a text is not a pattern. -/
inductive Fault where
  /-- A group is opened and not closed. -/
  | unclosedGroup
  /-- A group is closed that was not opened. -/
  | unopenedGroup
  /-- A repetition has nothing to repeat. -/
  | nothingToRepeat
  /-- The count of a repetition is not written out, too large, or reversed. -/
  | badCount
  /-- A bracket class is opened and not closed. -/
  | unclosedClass
  /-- A range of characters is reversed, or one of its ends is no character. -/
  | badRange
  /-- Something in a bracket class is no set of characters. -/
  | badClassItem
  /-- A backslash is not followed by something it can escape. -/
  | badEscape
  /-- The flags of a group are unknown, repeated or missing. -/
  | badFlags
  /-- The name of a group is empty or has a character that names do not have. -/
  | badGroupName
  /-- Two groups have one name. -/
  | repeatedGroupName
  /-- A group looks ahead or behind. -/
  | lookAround
  /-- Groups, repetitions and classes are nested too deeply. -/
  | nestedTooDeeply
  /-- The pattern is too large when it is written out. -/
  | tooLarge
  deriving DecidableEq

/-- The text of a fault. -/
def Fault.message : Fault → String
  | unclosedGroup => "unclosed group"
  | unopenedGroup => "unopened group"
  | nothingToRepeat => "repetition operator missing expression"
  | badCount => "invalid repetition count"
  | unclosedClass => "unclosed character class"
  | badRange => "invalid character class range"
  | badClassItem => "invalid item in character class"
  | badEscape => "unrecognized escape sequence"
  | badFlags => "invalid group flags"
  | badGroupName => "invalid capture group name"
  | repeatedGroupName => "duplicate capture group name"
  | lookAround => "look-around is not supported"
  | nestedTooDeeply => "pattern is nested too deeply"
  | tooLarge => "compiled pattern is too large"

/-! ## Escapes -/

/-- What an escape stands for. -/
inductive Escape where
  | char (c : Char)
  | shorthand (k : Shorthand) (negated : Bool)
  | edge (a : Assertion)
  deriving DecidableEq

/-- The number that hexadecimal digits write. -/
def hexNumber? (ds : List Char) : Option Nat :=
  ds.foldl (fun n d => match n, Text.hexValue? d with
    | some n, some v => some (n * 16 + v)
    | _, _ => none) (some 0)

/-- The character whose code point hexadecimal digits write. -/
def charOfHex? (ds : List Char) : Option Char :=
  if ds.isEmpty then none
  else match hexNumber? ds with
    | some n => if n.isValidChar then some (Char.ofNat n) else none
    | none => none

/-- Reads a code point, written with a number of digits or any digits between braces. -/
def readHex (digits : Nat) : List Char → Except Fault (Escape × List Char)
  | '\x7b' :: cs =>
    match charOfHex? (cs.takeWhile (· != '\x7d')), cs.dropWhile (· != '\x7d') with
    | some c, _ :: rest => .ok (.char c, rest)
    | _, _ => .error .badEscape
  | cs =>
    if (cs.take digits).length = digits then
      match charOfHex? (cs.take digits) with
      | some c => .ok (.char c, cs.drop digits)
      | none => .error .badEscape
    else .error .badEscape

/-- The assertion at a word edge with a name. -/
def namedEdge? : List Char → Option Assertion
  | ['s', 't', 'a', 'r', 't'] => some .wordStart
  | ['e', 'n', 'd'] => some .wordEnd
  | ['s', 't', 'a', 'r', 't', '-', 'h', 'a', 'l', 'f'] => some .wordStartHalf
  | ['e', 'n', 'd', '-', 'h', 'a', 'l', 'f'] => some .wordEndHalf
  | _ => none

/-- Whether a character may stand in the name of a word edge. -/
def isEdgeNameChar (c : Char) : Bool := c.isAlpha || c == '-'

/-- Reads what kind of word edge is asserted: a name between braces may follow. Braces with
something else in them are a repetition. -/
def readWordEdge : List Char → Except Fault (Escape × List Char)
  | '\x7b' :: cs =>
    match cs with
    | [] => .error .badEscape
    | d :: _ =>
      if isEdgeNameChar d then
        match namedEdge? (cs.takeWhile isEdgeNameChar), cs.dropWhile isEdgeNameChar with
        | some a, '\x7d' :: rest => .ok (.edge a, rest)
        | _, _ => .error .badEscape
      else .ok (.edge .wordEdge, '\x7b' :: cs)
  | cs => .ok (.edge .wordEdge, cs)

/-- Whether an ASCII character stands for itself behind a backslash: all but letters, digits and
angle brackets do. -/
def isEscapable (c : Char) : Bool :=
  isMeta c || (decide (c.toNat < 0x80) && !c.isAlphanum && c != '<' && c != '>')

/-- Reads an escape whose first character behind the backslash is `c`. -/
def readEscapeOf (c : Char) (cs : List Char) : Except Fault (Escape × List Char) :=
  if isEscapable c then .ok (.char c, cs)
  else match c with
    | 'x' => readHex 2 cs
    | 'u' => readHex 4 cs
    | 'U' => readHex 8 cs
    | 'd' => .ok (.shorthand .digit false, cs)
    | 'D' => .ok (.shorthand .digit true, cs)
    | 's' => .ok (.shorthand .blank false, cs)
    | 'S' => .ok (.shorthand .blank true, cs)
    | 'w' => .ok (.shorthand .word false, cs)
    | 'W' => .ok (.shorthand .word true, cs)
    | 'a' => .ok (.char '\x07', cs)
    | 'f' => .ok (.char '\x0c', cs)
    | 't' => .ok (.char '\t', cs)
    | 'n' => .ok (.char '\n', cs)
    | 'r' => .ok (.char '\r', cs)
    | 'v' => .ok (.char '\x0b', cs)
    | 'A' => .ok (.edge .textStart, cs)
    | 'z' => .ok (.edge .textEnd, cs)
    | 'b' => readWordEdge cs
    | 'B' => .ok (.edge .notWordEdge, cs)
    | '<' => .ok (.edge .wordStart, cs)
    | '>' => .ok (.edge .wordEnd, cs)
    | _ => .error .badEscape

/-- Reads what follows a backslash. -/
def readEscape : List Char → Except Fault (Escape × List Char)
  | [] => .error .badEscape
  | c :: cs => readEscapeOf c cs

/-! ## What is left -/

theorem suffix_of_dropWhile_eq_cons {α : Type} {p : α → Bool} {l rest : List α} {x : α}
    (h : l.dropWhile p = x :: rest) : rest <:+ l :=
  (List.suffix_cons x rest).trans (h ▸ List.dropWhile_suffix p)

theorem readHex_suffix {digits : Nat} {cs rest : List Char} {e : Escape}
    (h : readHex digits cs = .ok (e, rest)) : rest <:+ cs := by
  unfold readHex at h
  split at h
  · split at h
    · rename_i hd
      cases h
      exact (suffix_of_dropWhile_eq_cons hd).trans (List.suffix_cons _ _)
    · cases h
  · split at h
    · split at h
      · cases h
        exact List.drop_suffix _ _
      · cases h
    · cases h

theorem readWordEdge_suffix {cs rest : List Char} {e : Escape}
    (h : readWordEdge cs = .ok (e, rest)) : rest <:+ cs := by
  unfold readWordEdge at h
  split at h
  · split at h
    · cases h
    · split at h
      · split at h
        · rename_i hd
          cases h
          exact (suffix_of_dropWhile_eq_cons hd).trans (List.suffix_cons _ _)
        · cases h
      · cases h
        exact List.suffix_refl _
  · cases h
    exact List.suffix_refl _

theorem readEscapeOf_suffix {c : Char} {cs rest : List Char} {e : Escape}
    (h : readEscapeOf c cs = .ok (e, rest)) : rest <:+ cs := by
  unfold readEscapeOf at h
  split at h
  · cases h
    exact List.suffix_refl _
  · split at h
    all_goals first
      | exact readHex_suffix h
      | exact readWordEdge_suffix h
      | (cases h
         exact List.suffix_refl _)
      | cases h

/-- An escape leaves the end of what follows the backslash. -/
theorem readEscape_suffix {cs rest : List Char} {e : Escape}
    (h : readEscape cs = .ok (e, rest)) : rest <:+ cs := by
  cases cs with
  | nil => cases h
  | cons c cs => exact (readEscapeOf_suffix h).trans (List.suffix_cons c cs)

end UsageIndex.Pattern
