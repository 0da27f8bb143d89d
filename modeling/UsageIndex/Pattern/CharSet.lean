import UsageIndex.Text.Case
import UsageIndex.Text.Character
import UsageIndex.Text.Letter

/-!
# Sets of characters

A `CharSet` is an expression for a set of characters: ranges, the classes with a name, and the
Boolean operations. `caseless` closes a set under equality up to case. The classes with a name and
the case of letters are those of version 16.0 of the Unicode standard.

* **`CharSet.contains`**: membership.
-/

namespace UsageIndex.Pattern

/-- The classes that are written with a backslash and a letter. -/
inductive Shorthand where
  /-- Decimal digits, `\d`. -/
  | digit
  /-- Blanks, `\s`. -/
  | blank
  /-- Word characters, `\w`. -/
  | word
  deriving DecidableEq

namespace Shorthand

/-- Whether a class with a letter contains a character. -/
def contains : Shorthand → Char → Bool
  | digit, c => Text.isDigit c && !Text.isNewIn17 c
  | blank, c => Text.isBlank c
  | word, c => Text.isWord c && !Text.isNewIn17 c

end Shorthand

/-- The ASCII classes that are written with a name between colons, as in `[[:alpha:]]`. -/
inductive Posix where
  | alnum | alpha | ascii | blank | cntrl | digit | graph | lower | print | punct | space | upper
  | word | xdigit
  deriving DecidableEq

namespace Posix

/-- The classes with their names. -/
def names : List (List Char × Posix) := [
  (['a', 'l', 'n', 'u', 'm'], alnum), (['a', 'l', 'p', 'h', 'a'], alpha),
  (['a', 's', 'c', 'i', 'i'], ascii), (['b', 'l', 'a', 'n', 'k'], blank),
  (['c', 'n', 't', 'r', 'l'], cntrl), (['d', 'i', 'g', 'i', 't'], digit),
  (['g', 'r', 'a', 'p', 'h'], graph), (['l', 'o', 'w', 'e', 'r'], lower),
  (['p', 'r', 'i', 'n', 't'], print), (['p', 'u', 'n', 'c', 't'], punct),
  (['s', 'p', 'a', 'c', 'e'], space), (['u', 'p', 'p', 'e', 'r'], upper),
  (['w', 'o', 'r', 'd'], word), (['x', 'd', 'i', 'g', 'i', 't'], xdigit)]

/-- The class with a name. -/
def ofName? (name : List Char) : Option Posix := names.lookup name

/-- The ranges of code points of a class. -/
def ranges : Posix → List (Nat × Nat)
  | alnum => [(0x30, 0x39), (0x41, 0x5a), (0x61, 0x7a)]
  | alpha => [(0x41, 0x5a), (0x61, 0x7a)]
  | ascii => [(0x00, 0x7f)]
  | blank => [(0x09, 0x09), (0x20, 0x20)]
  | cntrl => [(0x00, 0x1f), (0x7f, 0x7f)]
  | digit => [(0x30, 0x39)]
  | graph => [(0x21, 0x7e)]
  | lower => [(0x61, 0x7a)]
  | print => [(0x20, 0x7e)]
  | punct => [(0x21, 0x2f), (0x3a, 0x40), (0x5b, 0x60), (0x7b, 0x7e)]
  | space => [(0x09, 0x0d), (0x20, 0x20)]
  | upper => [(0x41, 0x5a)]
  | word => [(0x30, 0x39), (0x41, 0x5a), (0x5f, 0x5f), (0x61, 0x7a)]
  | xdigit => [(0x30, 0x39), (0x41, 0x46), (0x61, 0x66)]

/-- Whether a class contains a character. -/
def contains (p : Posix) (c : Char) : Bool := Text.inRanges p.ranges c.toNat

end Posix

/-- An expression for a set of characters. -/
inductive CharSet where
  | nothing
  /-- The characters from one to another, ends included. -/
  | range (lo hi : Char)
  | shorthand (k : Shorthand)
  | posix (k : Posix)
  | union (s t : CharSet)
  | inter (s t : CharSet)
  | diff (s t : CharSet)
  | symmDiff (s t : CharSet)
  | compl (s : CharSet)
  /-- The characters that are equal up to case to a character of the set. -/
  | caseless (s : CharSet)
  deriving DecidableEq

namespace CharSet

/-- The set of one character. -/
def single (c : Char) : CharSet := range c c

/-- All characters. -/
def all : CharSet := compl nothing

/-- A set, or its complement. -/
def negateIf (negate : Bool) (s : CharSet) : CharSet := if negate then compl s else s

/-- A set, or its closure under equality up to case. -/
def foldIf (fold : Bool) (s : CharSet) : CharSet := if fold then caseless s else s

/-- Whether a set contains a character. -/
def contains : CharSet → Char → Bool
  | nothing, _ => false
  | range lo hi, c => decide (lo ≤ c) && decide (c ≤ hi)
  | shorthand k, c => k.contains c
  | posix k, c => k.contains c
  | union s t, c => s.contains c || t.contains c
  | inter s t, c => s.contains c && t.contains c
  | diff s t, c => s.contains c && !t.contains c
  | symmDiff s t, c => xor (s.contains c) (t.contains c)
  | compl s, c => !s.contains c
  | caseless s, c => (Text.variants c).any s.contains

theorem contains_all (c : Char) : all.contains c = true := rfl

@[simp] theorem contains_single (c d : Char) : (single c).contains d = decide (d = c) := by
  simp only [single, contains]
  rw [← Bool.decide_and, decide_eq_decide]
  exact ⟨fun h => Char.le_antisymm h.2 h.1,
    fun h => by subst h; exact ⟨Char.le_refl _, Char.le_refl _⟩⟩

end CharSet

end UsageIndex.Pattern
