import UsageIndex.Json.Number
import UsageIndex.Json.Spelling

/-!
# Tokens of structured texts

The words and marks that a structured text is made of, with blanks between them. There are four
blanks: the space, the tab and the two line breaks.

* **`tokens?`**: the tokens of a text.
* **`tokens?_spelled_append`**: a token that is written is read back, if what follows does not carry
  it on.
-/

namespace UsageIndex.Json

/-- A word or a mark of a structured text. -/
inductive Token where
  | openArray | closeArray | openObject | closeObject | comma | colon
  | null
  | bool (b : Bool)
  /-- A number, as it is written. -/
  | number (literal : List Char)
  /-- A string, as it is written between the quotes. -/
  | string (spelling : List Char)
  deriving DecidableEq

namespace Token

/-- How a token is written. -/
def spelled : Token → List Char
  | openArray => ['[']
  | closeArray => [']']
  | openObject => ['\x7b']
  | closeObject => ['\x7d']
  | comma => [',']
  | colon => [':']
  | null => ['n', 'u', 'l', 'l']
  | bool true => ['t', 'r', 'u', 'e']
  | bool false => ['f', 'a', 'l', 's', 'e']
  | number literal => literal
  | string spelling => '"' :: (spelling ++ ['"'])

end Token

/-- Whether a character may stand between tokens. -/
def isSpace (c : Char) : Bool := c == ' ' || c == '\t' || c == '\n' || c == '\r'

/-- Whether a character may stand in a number. -/
def isNumberChar (c : Char) : Bool :=
  c.isDigit || c == '-' || c == '+' || c == '.' || c == 'e' || c == 'E'

/-- The text up to the closing quote, and the text behind it. -/
def readSpelling : List Char → Option (List Char × List Char)
  | [] => none
  | '"' :: cs => some ([], cs)
  | '\\' :: c :: cs => (readSpelling cs).map fun r => ('\\' :: c :: r.1, r.2)
  | c :: cs => (readSpelling cs).map fun r => (c :: r.1, r.2)

/-- Reads a string behind its opening quote. -/
def readString (cs : List Char) : Option (Token × List Char) :=
  match readSpelling cs with
  | some (spelling, rest) => if Spelled spelling then some (.string spelling, rest) else none
  | none => none

/-- Reads a number. -/
def readNumber (cs : List Char) : Option (Token × List Char) :=
  if (decimal? (cs.takeWhile isNumberChar)).isSome then
    some (.number (cs.takeWhile isNumberChar), cs.dropWhile isNumberChar)
  else none

/-- Reads the token that begins with a character. -/
def Token.next? (c : Char) (cs : List Char) : Option (Token × List Char) :=
  match c, cs with
  | '[', cs => some (.openArray, cs)
  | ']', cs => some (.closeArray, cs)
  | '\x7b', cs => some (.openObject, cs)
  | '\x7d', cs => some (.closeObject, cs)
  | ',', cs => some (.comma, cs)
  | ':', cs => some (.colon, cs)
  | 'n', 'u' :: 'l' :: 'l' :: cs => some (.null, cs)
  | 't', 'r' :: 'u' :: 'e' :: cs => some (.bool true, cs)
  | 'f', 'a' :: 'l' :: 's' :: 'e' :: cs => some (.bool false, cs)
  | '"', cs => readString cs
  | c, cs => readNumber (c :: cs)

theorem readSpelling_length {cs : List Char} {r : List Char × List Char}
    (h : readSpelling cs = some r) : r.2.length < cs.length := by
  fun_induction readSpelling cs generalizing r with
  | case1 => cases h
  | case2 cs =>
    cases h
    exact Nat.lt_succ_self _
  | case3 c cs ih =>
    obtain ⟨r', h', rfl⟩ := Option.map_eq_some_iff.mp h
    have := ih h'
    simp only [List.length_cons]
    omega
  | case4 c cs _ _ ih =>
    obtain ⟨r', h', rfl⟩ := Option.map_eq_some_iff.mp h
    have := ih h'
    simp only [List.length_cons]
    omega

theorem readNumber_length {c : Char} {cs rest : List Char} {t : Token}
    (h : readNumber (c :: cs) = some (t, rest)) : rest.length ≤ cs.length := by
  unfold readNumber at h
  split at h
  · rename_i hd
    simp only [Option.some.injEq, Prod.mk.injEq] at h
    rw [← h.2, List.dropWhile_cons]
    split
    · exact (List.dropWhile_sublist _).length_le
    · rename_i hc
      rw [List.takeWhile_cons, if_neg hc] at hd
      cases hd
  · cases h

/-- The characters behind a token are among those behind its first. -/
theorem Token.next?_length {c : Char} {cs rest : List Char} {t : Token}
    (h : Token.next? c cs = some (t, rest)) : rest.length ≤ cs.length := by
  unfold Token.next? at h
  split at h
  case h_10 =>
    unfold readString at h
    split at h
    · rename_i hr
      split at h
      · simp only [Option.some.injEq, Prod.mk.injEq] at h
        obtain ⟨-, rfl⟩ := h
        exact Nat.le_of_lt (readSpelling_length hr)
      · cases h
    · cases h
  case h_11 => exact readNumber_length h
  all_goals
    simp only [Option.some.injEq, Prod.mk.injEq] at h
    obtain ⟨-, rfl⟩ := h
    grind

/-- The tokens of a text. -/
def tokens? : List Char → Option (List Token)
  | [] => some []
  | c :: cs =>
    if isSpace c then tokens? cs
    else
      match _h : Token.next? c cs with
      | some (t, rest) =>
        match tokens? rest with
        | some ts => some (t :: ts)
        | none => none
      | none => none
termination_by cs => cs.length
decreasing_by
  · exact Nat.lt_succ_self _
  · exact Nat.lt_succ_of_le (Token.next?_length _h)

/-! ## What is written reads back -/

/-- A token that can be written: its literal is one. -/
def Token.Valid : Token → Prop
  | number literal => (decimal? literal).isSome = true
  | string spelling => Spelled spelling
  | _ => True

/-- A text does not carry on a token. -/
def Token.EndsBefore : Token → List Char → Prop
  | number _, rest => ∀ c ∈ rest.head?, isNumberChar c = false
  | _, _ => True

theorem tokens?_nil : tokens? [] = some [] := by
  rw [tokens?]

theorem tokens?_cons {c : Char} {cs rest : List Char} {t : Token} (hs : isSpace c = false)
    (h : Token.next? c cs = some (t, rest)) :
    tokens? (c :: cs) = (tokens? rest).map (t :: ·) := by
  rw [tokens?, hs]
  simp only [Bool.false_eq_true, if_false]
  split
  · rename_i h'
    rw [h] at h'
    cases h'
    split <;> rename_i h' <;> simp [h']
  · rename_i h'
    rw [h] at h'
    cases h'

theorem readSpelling_plain {c : Char} (h₁ : c ≠ '"') (h₂ : c ≠ '\\') (cs : List Char) :
    readSpelling (c :: cs) = (readSpelling cs).map fun r => (c :: r.1, r.2) := by
  rw [readSpelling.eq_def]
  split <;> simp_all

theorem isSome_consPiece {p : Piece} {ps : Option (List Piece)} :
    (consPiece p ps).isSome = ps.isSome := by
  cases ps <;> rfl

theorem plain_of_hexValue? {c : Char} {n : Nat} (h : Text.hexValue? c = some n) :
    c ≠ '"' ∧ c ≠ '\\' := by
  constructor <;> (rintro rfl; revert h; simp [Text.hexValue?])

theorem plain_of_unitValue? {a b c d : Char} {n : Nat} (h : unitValue? a b c d = some n) :
    (a ≠ '"' ∧ a ≠ '\\') ∧ (b ≠ '"' ∧ b ≠ '\\') ∧ (c ≠ '"' ∧ c ≠ '\\') ∧
      (d ≠ '"' ∧ d ≠ '\\') := by
  unfold unitValue? at h
  split at h
  · rename_i ha hb hc hd
    exact ⟨plain_of_hexValue? ha, plain_of_hexValue? hb, plain_of_hexValue? hc,
      plain_of_hexValue? hd⟩
  · cases h

theorem readSpelling_append {s : List Char} (h : Spelled s) (rest : List Char) :
    readSpelling (s ++ '"' :: rest) = some (s, rest) := by
  unfold Spelled at h
  fun_induction pieces? s with
  | case1 => simp [readSpelling]
  | case2 a b c d cs n hu ih =>
    rw [isSome_consPiece] at h
    obtain ⟨ha, hb, hc, hd⟩ := plain_of_unitValue? hu
    simp only [List.cons_append, readSpelling, readSpelling_plain ha.1 ha.2,
      readSpelling_plain hb.1 hb.2, readSpelling_plain hc.1 hc.2, readSpelling_plain hd.1 hd.2,
      ih h, Option.map_some]
  | case3 a b c d cs hu => cases h
  | case4 e cs _ c he ih =>
    rw [isSome_consPiece] at h
    simp only [List.cons_append, readSpelling, ih h, Option.map_some]
  | case5 => cases h
  | case6 => cases h
  | case7 c cs _ _ hc ih =>
    rw [isSome_consPiece] at h
    simp only [not_or] at hc
    rw [List.cons_append, readSpelling_plain hc.2.1 hc.1, ih h, Option.map_some]

theorem isDigit_of_mem_takeWhile {cs : List Char} {c : Char}
    (h : c ∈ cs.takeWhile Char.isDigit) : isNumberChar c = true := by
  have := List.all_takeWhile (p := Char.isDigit) (l := cs)
  rw [List.all_eq_true] at this
  simp [isNumberChar, this c h]

/-- Every character of a number may stand in a number. -/
theorem isNumberChar_of_exponent? {cs : List Char} (h : (exponent? cs).isSome = true) :
    ∀ c ∈ cs, isNumberChar c = true := by
  have digits : ∀ ds, (exponentOfDigits? ds).isSome = true → ∀ c ∈ ds, isNumberChar c = true := by
    intro ds h c hc
    unfold exponentOfDigits? at h
    split at h
    · rename_i hd
      simp [isNumberChar, List.all_eq_true.mp hd.2 c hc]
    · cases h
  have signed : ∀ ds, (signedExponent? ds).isSome = true → ∀ c ∈ ds, isNumberChar c = true := by
    intro ds h
    unfold signedExponent? at h
    split at h <;> rw [Option.isSome_map] at h
    · exact List.forall_mem_cons.mpr ⟨by decide, digits _ h⟩
    · exact List.forall_mem_cons.mpr ⟨by decide, digits _ h⟩
    · exact digits _ h
  unfold exponent? at h
  split at h
  · simp
  · exact List.forall_mem_cons.mpr ⟨by decide, signed _ h⟩
  · exact List.forall_mem_cons.mpr ⟨by decide, signed _ h⟩
  · cases h

theorem isNumberChar_of_unsigned? {cs : List Char} (h : (unsigned? cs).isSome = true) :
    ∀ c ∈ cs, isNumberChar c = true := by
  unfold unsigned? at h
  simp only at h
  split at h
  · split at h
    · rename_i frac rest hf
      rw [Option.isSome_map] at h
      have hr := isNumberChar_of_exponent? h
      rw [← List.takeWhile_append_dropWhile (p := Char.isDigit) (l := cs)]
      intro c hc
      rcases List.mem_append.mp hc with hc | hc
      · exact isDigit_of_mem_takeWhile hc
      · unfold readFraction at hf
        split at hf
        · rename_i ds he
          rw [he] at hc
          split at hf
          · cases hf
          · cases hf
            rcases List.mem_cons.mp hc with rfl | hc
            · decide
            · rw [← List.takeWhile_append_dropWhile (p := Char.isDigit) (l := ds)] at hc
              rcases List.mem_append.mp hc with hc | hc
              · exact isDigit_of_mem_takeWhile hc
              · exact hr c hc
        · cases hf
          exact hr c hc
    · cases h
  · cases h

theorem isNumberChar_of_decimal? {cs : List Char} (h : (decimal? cs).isSome = true) :
    ∀ c ∈ cs, isNumberChar c = true := by
  unfold decimal? at h
  split at h
  · exact List.forall_mem_cons.mpr ⟨by decide, isNumberChar_of_unsigned? h⟩
  · exact isNumberChar_of_unsigned? h

theorem readNumber_append {literal rest : List Char} (h : (decimal? literal).isSome = true)
    (hr : ∀ c ∈ rest.head?, isNumberChar c = false) :
    readNumber (literal ++ rest) = some (.number literal, rest) := by
  have hl := isNumberChar_of_decimal? h
  have ht : (literal ++ rest).takeWhile isNumberChar = literal := by
    rw [List.takeWhile_append_of_pos hl]
    cases rest with
    | nil => simp
    | cons c cs => simp [hr c rfl]
  have hd : (literal ++ rest).dropWhile isNumberChar = rest := by
    rw [List.dropWhile_append_of_pos hl]
    cases rest with
    | nil => rfl
    | cons c cs => simp [hr c rfl]
  rw [readNumber, ht, hd, if_pos h]

/-- A token that is written is read back, if what follows does not carry it on. -/
theorem tokens?_spelled_append {t : Token} {rest : List Char} (hv : t.Valid)
    (he : t.EndsBefore rest) : tokens? (t.spelled ++ rest) = (tokens? rest).map (t :: ·) := by
  cases t with
  | openArray => exact tokens?_cons rfl rfl
  | closeArray => exact tokens?_cons rfl rfl
  | openObject => exact tokens?_cons rfl rfl
  | closeObject => exact tokens?_cons rfl rfl
  | comma => exact tokens?_cons rfl rfl
  | colon => exact tokens?_cons rfl rfl
  | null => exact tokens?_cons rfl rfl
  | bool b => cases b <;> exact tokens?_cons rfl rfl
  | number literal =>
    have hn := readNumber_append hv he
    cases literal with
    | nil => cases hv
    | cons c cs =>
      have hc : isNumberChar c = true := isNumberChar_of_decimal? hv c List.mem_cons_self
      refine tokens?_cons ?_ ?_
      · cases hs : isSpace c with
        | false => rfl
        | true =>
          simp only [isSpace, Bool.or_eq_true, beq_iff_eq] at hs
          rcases hs with ((rfl | rfl) | rfl) | rfl <;> exact absurd hc (by decide)
      · unfold Token.next?
        split
        case h_11 => exact hn
        all_goals exact absurd hc (by decide)
  | string spelling =>
    have : (Token.string spelling).spelled ++ rest = '"' :: (spelling ++ '"' :: rest) := by
      simp [Token.spelled]
    rw [this]
    refine tokens?_cons rfl ?_
    have hs : Spelled spelling := hv
    simp only [Token.next?, readString, readSpelling_append hs, hs, if_true]

end UsageIndex.Json
