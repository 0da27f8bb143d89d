import UsageIndex.Text.Character

/-!
# Spelled strings

How a text is written between double quotes. A quote, a backslash and the control characters are
written with a backslash; any character of the first plane may be, as the letter `u` and four
hexadecimal digits, and a character beyond it as a pair of surrogates.

* **`decode?_encode`**: what is written reads back.
* **`Spelled`**: what may stand between the quotes. A text that is spelled need not read back: a
  surrogate may stand alone.
-/

namespace UsageIndex.Json

open Text (hexValue?)

/-- The lower case hexadecimal digit of a value below 16. -/
def hexDigit (n : Nat) : Char := Char.ofNat (if n < 10 then 0x30 + n else 0x61 + (n - 10))

/-- The number that four hexadecimal digits write. -/
def unitValue? (a b c d : Char) : Option Nat :=
  match hexValue? a, hexValue? b, hexValue? c, hexValue? d with
  | some a, some b, some c, some d => some (((a * 16 + b) * 16 + c) * 16 + d)
  | _, _, _, _ => none

/-- What a backslash and one other character stand for. -/
def shortEscape? (c : Char) : Option Char :=
  if c = '"' ∨ c = '\\' ∨ c = '/' then some c
  else if c = 'b' then some '\x08'
  else if c = 'f' then some '\x0c'
  else if c = 'n' then some '\n'
  else if c = 'r' then some '\r'
  else if c = 't' then some '\t'
  else none

/-! ## Writing -/

/-- How one character is written. -/
def encodeChar (c : Char) : List Char :=
  if c = '"' ∨ c = '\\' then ['\\', c]
  else if c = '\x08' then ['\\', 'b']
  else if c = '\x0c' then ['\\', 'f']
  else if c = '\n' then ['\\', 'n']
  else if c = '\r' then ['\\', 'r']
  else if c = '\t' then ['\\', 't']
  else if c.toNat < 0x20 then
    ['\\', 'u', '0', '0', hexDigit (c.toNat / 16), hexDigit (c.toNat % 16)]
  else [c]

/-- How a text is written between the quotes. -/
def encode (cs : List Char) : List Char := cs.flatMap encodeChar

/-! ## Reading -/

/-- What a spelling is made of. -/
inductive Piece where
  /-- A character. -/
  | char (c : Char)
  /-- A unit of the 16 bit encoding, written with four digits. -/
  | unit (n : Nat)
  deriving DecidableEq

/-- Puts a piece in front. -/
def consPiece (p : Piece) : Option (List Piece) → Option (List Piece)
  | some ps => some (p :: ps)
  | none => none

/-- The pieces of a spelling. -/
def pieces? : List Char → Option (List Piece)
  | [] => some []
  | '\\' :: 'u' :: a :: b :: c :: d :: cs =>
    match unitValue? a b c d with
    | some n => consPiece (.unit n) (pieces? cs)
    | none => none
  | '\\' :: e :: cs =>
    match shortEscape? e with
    | some c => consPiece (.char c) (pieces? cs)
    | none => none
  | c :: cs =>
    if c = '\\' ∨ c = '"' ∨ c.toNat < 0x20 then none else consPiece (.char c) (pieces? cs)

/-- Whether a unit opens a pair of surrogates. -/
def isLeadingSurrogate (n : Nat) : Bool := decide (0xd800 ≤ n ∧ n ≤ 0xdbff)

/-- Whether a unit closes a pair of surrogates. -/
def isTrailingSurrogate (n : Nat) : Bool := decide (0xdc00 ≤ n ∧ n ≤ 0xdfff)

/-- The text of pieces: a surrogate has to be paired. -/
def join? : List Piece → Option (List Char)
  | [] => some []
  | .char c :: ps => (join? ps).map (c :: ·)
  | [.unit n] =>
    if isLeadingSurrogate n || isTrailingSurrogate n then none else some [Char.ofNat n]
  | .unit n :: .char c :: ps =>
    if isLeadingSurrogate n || isTrailingSurrogate n then none
    else (join? ps).map (Char.ofNat n :: c :: ·)
  | .unit n :: .unit m :: ps =>
    if isLeadingSurrogate n then
      if isTrailingSurrogate m then
        (join? ps).map (Char.ofNat (0x10000 + (n - 0xd800) * 0x400 + (m - 0xdc00)) :: ·)
      else none
    else if isTrailingSurrogate n then none
    else (join? (.unit m :: ps)).map (Char.ofNat n :: ·)

/-- The text of a spelling. -/
def decode? (cs : List Char) : Option (List Char) := (pieces? cs).bind join?

/-- A spelling: every backslash escapes something, and there are no quotes and no control
characters. -/
def Spelled (cs : List Char) : Prop := (pieces? cs).isSome = true

instance (cs : List Char) : Decidable (Spelled cs) := inferInstanceAs (Decidable (_ = true))

/-! ## What is written reads back -/

theorem hexValue?_hexDigit : ∀ n, n < 16 → hexValue? (hexDigit n) = some n := by decide

theorem unitValue?_control {n : Nat} (h : n < 0x20) :
    unitValue? '0' '0' (hexDigit (n / 16)) (hexDigit (n % 16)) = some n := by
  have h₀ : hexValue? '0' = some 0 := by decide
  simp only [unitValue?, h₀, hexValue?_hexDigit (n / 16) (by omega),
    hexValue?_hexDigit (n % 16) (by omega), Option.some.injEq]
  omega

theorem pieces?_encodeChar (c : Char) (cs : List Char) :
    ∃ p, pieces? (encodeChar c ++ cs) = consPiece p (pieces? cs) ∧
      (p = .char c ∨ p = .unit c.toNat ∧ c.toNat < 0x20) := by
  unfold encodeChar
  split
  · rename_i h
    refine ⟨.char c, ?_, Or.inl rfl⟩
    rcases h with rfl | rfl <;> simp [pieces?, shortEscape?]
  split
  · rename_i h
    exact ⟨.char c, by subst h; simp [pieces?, shortEscape?], Or.inl rfl⟩
  split
  · rename_i h
    exact ⟨.char c, by subst h; simp [pieces?, shortEscape?], Or.inl rfl⟩
  split
  · rename_i h
    exact ⟨.char c, by subst h; simp [pieces?, shortEscape?], Or.inl rfl⟩
  split
  · rename_i h
    exact ⟨.char c, by subst h; simp [pieces?, shortEscape?], Or.inl rfl⟩
  split
  · rename_i h
    exact ⟨.char c, by subst h; simp [pieces?, shortEscape?], Or.inl rfl⟩
  split
  · rename_i h
    refine ⟨.unit c.toNat, ?_, Or.inr ⟨rfl, h⟩⟩
    simp only [List.cons_append, List.nil_append, pieces?, unitValue?_control h]
  · rename_i h₁ _ _ _ _ _ h₂
    refine ⟨.char c, ?_, Or.inl rfl⟩
    rw [not_or] at h₁
    rw [List.cons_append, List.nil_append, pieces?.eq_def]
    split
    · rename_i e
      cases e
    · rename_i e
      simp only [List.cons.injEq] at e
      exact absurd e.1 h₁.2
    · rename_i e
      simp only [List.cons.injEq] at e
      exact absurd e.1 h₁.2
    · rename_i e
      simp only [List.cons.injEq] at e
      rw [← e.1, ← e.2, if_neg (by simp [h₁.1, h₁.2, h₂])]

/-- A unit that is no surrogate is a character. -/
theorem join?_unit {n : Nat} (h : n < 0x20) (ps : List Piece) :
    join? (.unit n :: ps) = (join? ps).map (Char.ofNat n :: ·) := by
  have hl : isLeadingSurrogate n = false := by
    simp only [isLeadingSurrogate, decide_eq_false_iff_not]
    omega
  have ht : isTrailingSurrogate n = false := by
    simp only [isTrailingSurrogate, decide_eq_false_iff_not]
    omega
  cases ps with
  | nil => simp [join?, hl, ht]
  | cons p ps =>
    cases p with
    | char c => simp [join?, hl, ht, Function.comp_def]
    | unit m => simp [join?, hl, ht]

theorem pieces?_encode (cs : List Char) :
    ∃ ps, pieces? (encode cs) = some ps ∧ join? ps = some cs := by
  induction cs with
  | nil => exact ⟨[], rfl, rfl⟩
  | cons c cs ih =>
    obtain ⟨ps, hp, hj⟩ := ih
    obtain ⟨p, he, hc⟩ := pieces?_encodeChar c (encode cs)
    refine ⟨p :: ps, ?_, ?_⟩
    · rw [encode, List.flatMap_cons, ← encode, he, hp]
      rfl
    · rcases hc with rfl | ⟨rfl, hlt⟩
      · simp [join?, hj]
      · rw [join?_unit hlt, hj]
        simp

/-- **What is written reads back.** -/
theorem decode?_encode (cs : List Char) : decode? (encode cs) = some cs := by
  obtain ⟨ps, hp, hj⟩ := pieces?_encode cs
  rw [decode?, hp]
  exact hj

/-- What is written is spelled. -/
theorem spelled_encode (cs : List Char) : Spelled (encode cs) := by
  obtain ⟨ps, hp, -⟩ := pieces?_encode cs
  rw [Spelled, hp]
  rfl

end UsageIndex.Json
