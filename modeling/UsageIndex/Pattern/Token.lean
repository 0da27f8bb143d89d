import UsageIndex.Pattern.Bracket

/-!
# Pattern tokens

A pattern is read as a list of tokens before its structure is built. How a token is read does not
depend on the tokens before it. The flags of a group are `i`, `s`, `m` and `U`; the flags `x`, `u`
and `R` are outside the dialect and count as unknown, and so do not make a pattern here.

* **`Token.next`**: the first token of a text. **`Token.next_suffix`**: it takes at least one
  character and leaves the end of the text.
* **`tokens`**: all tokens of a text.
-/

namespace UsageIndex.Pattern

/-- What the flags of a group change; `none` leaves a flag as it is. -/
structure FlagChange where
  /-- Letters match up to case, `i`. -/
  caseless : Option Bool
  /-- `.` matches line breaks, `s`. -/
  dotAll : Option Bool
  /-- `^` and `$` hold at line breaks, `m`. -/
  multiLine : Option Bool
  deriving DecidableEq

/-- The smallest parts of a pattern. -/
inductive Token where
  | char (c : Char)
  /-- The dot. -/
  | anyChar
  | shorthand (k : Shorthand) (negated : Bool)
  | bracket (p : Bracket)
  | edge (a : Assertion)
  /-- The caret. -/
  | caret
  /-- The dollar sign. -/
  | dollar
  /-- Opens a group that captures, with its name if it has one. -/
  | openCapture (name : Option (List Char))
  /-- Opens a group with flags of its own. -/
  | openGroup (flags : FlagChange)
  /-- Changes the flags of what follows in the group. -/
  | setFlags (flags : FlagChange)
  | close
  | bar
  /-- Repeats what is before it. -/
  | repetition (lo : Nat) (hi : Option Nat)
  deriving DecidableEq

/-! ## Flags -/

/-- No flag is changed. -/
def FlagChange.none : FlagChange := ⟨.none, .none, .none⟩

/-- Reads flags: letters, each at most once, those behind a dash switched off. At most one dash may
stand among them, and not at the end. Letter `U` only changes which match is preferred. -/
def readFlags (on : Bool) (seen : List Char) (f : FlagChange) :
    List Char → Except Fault FlagChange
  | [] => .ok f
  | c :: cs =>
    if c ∈ seen then .error .badFlags
    else match c with
      | '-' => if cs.isEmpty then .error .badFlags else readFlags false (c :: seen) f cs
      | 'i' => readFlags on (c :: seen) { f with caseless := some on } cs
      | 's' => readFlags on (c :: seen) { f with dotAll := some on } cs
      | 'm' => readFlags on (c :: seen) { f with multiLine := some on } cs
      | 'U' => readFlags on (c :: seen) f cs
      | _ => .error .badFlags

/-! ## Groups -/

/-- Whether a character may stand in the name of a group, at the start or further on. -/
def isNameChar (first : Bool) (c : Char) : Bool :=
  if first then c == '_' || Text.isAlphabetic c
  else c == '_' || c == '.' || c == '[' || c == ']' || Text.isAlphanumeric c

/-- Whether a text may be the name of a group. -/
def isGroupName : List Char → Bool
  | [] => false
  | c :: cs => isNameChar true c && cs.all (isNameChar false)

/-- Reads the name of a group, up to the angle bracket that closes it. -/
def readName (cs : List Char) : Except Fault (Token × List Char) :=
  let name := cs.takeWhile (· != '>')
  match cs.dropWhile (· != '>') with
  | _ :: rest =>
    if isGroupName name then .ok (.openCapture (some name), rest) else .error .badGroupName
  | [] => .error .badGroupName

/-- Whether a character ends the flags of a group. -/
def endsFlags (c : Char) : Bool := c == ':' || c == ')'

/-- Reads the flags of a group and what ends them: a colon opens the group, a closing parenthesis
leaves the flags for what follows. -/
def readGroupFlags (cs : List Char) : Except Fault (Token × List Char) :=
  let body := cs.takeWhile fun c => !endsFlags c
  match cs.dropWhile fun c => !endsFlags c with
  | [] => .error .badFlags
  | c :: rest =>
    match readFlags true [] FlagChange.none body with
    | .error f => .error f
    | .ok flags =>
      if c == ':' then .ok (.openGroup flags, rest)
      else if body.isEmpty then .error .nothingToRepeat
      else .ok (.setFlags flags, rest)

/-- Reads what follows an opening parenthesis. -/
def readGroup : List Char → Except Fault (Token × List Char)
  | '?' :: '=' :: _ => .error .lookAround
  | '?' :: '!' :: _ => .error .lookAround
  | '?' :: '<' :: '=' :: _ => .error .lookAround
  | '?' :: '<' :: '!' :: _ => .error .lookAround
  | '?' :: 'P' :: '<' :: cs => readName cs
  | '?' :: '<' :: cs => readName cs
  | '?' :: cs => readGroupFlags cs
  | cs => .ok (.openCapture none, cs)

/-! ## Repetitions -/

/-- The rest behind a question mark that makes a repetition prefer few copies. -/
def skipLazy : List Char → List Char
  | '?' :: cs => cs
  | cs => cs

/-- The value of decimal digits. -/
def decimalValue (ds : List Char) : Nat := ds.foldl (fun n d => n * 10 + (d.toNat - 0x30)) 0

/-- The largest count of a repetition. -/
def maxCount : Nat := 0xffffffff

/-- Reads a count, with blanks around it. -/
def readCount (cs : List Char) : Option Nat × List Char :=
  let cs := cs.dropWhile Text.isBlank
  let digits := cs.takeWhile Char.isDigit
  let rest := (cs.dropWhile Char.isDigit).dropWhile Text.isBlank
  if digits.isEmpty || decimalValue digits > maxCount then (none, rest)
  else (some (decimalValue digits), rest)

/-- Reads what follows the opening brace of a repetition: a count, a count and a comma, or two
counts. -/
def readRepetition (cs : List Char) : Except Fault (Token × List Char) :=
  match readCount cs with
  | (some lo, '\x7d' :: rest) => .ok (.repetition lo (some lo), skipLazy rest)
  | (some lo, ',' :: '\x7d' :: rest) => .ok (.repetition lo none, skipLazy rest)
  | (some lo, ',' :: rest) =>
    match readCount rest with
    | (some hi, '\x7d' :: rest) =>
      if lo ≤ hi then .ok (.repetition lo (some hi), skipLazy rest) else .error .badCount
    | _ => .error .badCount
  | _ => .error .badCount

/-! ## Tokens -/

/-- An escape as a token. -/
def Escape.toToken : Escape → Token
  | char c => .char c
  | shorthand k negated => .shorthand k negated
  | edge a => .edge a

/-- Reads the token that begins with the character `c`. -/
def Token.next (c : Char) (cs : List Char) : Except Fault (Token × List Char) :=
  match c with
  | '(' => readGroup cs
  | ')' => .ok (.close, cs)
  | '|' => .ok (.bar, cs)
  | '[' =>
    match readBracket cs with
    | .ok (p, rest) => .ok (.bracket p, rest)
    | .error f => .error f
  | '?' => .ok (.repetition 0 (some 1), skipLazy cs)
  | '*' => .ok (.repetition 0 none, skipLazy cs)
  | '+' => .ok (.repetition 1 none, skipLazy cs)
  | '\x7b' => readRepetition cs
  | '\\' =>
    match readEscape cs with
    | .ok (e, rest) => .ok (e.toToken, rest)
    | .error f => .error f
  | '.' => .ok (.anyChar, cs)
  | '^' => .ok (.caret, cs)
  | '$' => .ok (.dollar, cs)
  | c => .ok (.char c, cs)

/-! ## What is left -/

theorem skipLazy_suffix (cs : List Char) : skipLazy cs <:+ cs := by
  unfold skipLazy
  split
  · exact List.suffix_cons _ _
  · exact List.suffix_refl _

theorem readName_suffix {cs rest : List Char} {t : Token}
    (h : readName cs = .ok (t, rest)) : rest <:+ cs := by
  unfold readName at h
  simp only at h
  split at h
  · rename_i hd
    split at h
    · cases h
      exact suffix_of_dropWhile_eq_cons hd
    · cases h
  · cases h

theorem readGroupFlags_suffix {cs rest : List Char} {t : Token}
    (h : readGroupFlags cs = .ok (t, rest)) : rest <:+ cs := by
  unfold readGroupFlags at h
  simp only at h
  split at h
  · cases h
  · rename_i hd
    split at h
    · cases h
    · split at h
      · cases h
        exact suffix_of_dropWhile_eq_cons hd
      · split at h
        · cases h
        · cases h
          exact suffix_of_dropWhile_eq_cons hd

theorem readGroup_suffix {cs rest : List Char} {t : Token}
    (h : readGroup cs = .ok (t, rest)) : rest <:+ cs := by
  have hcons : ∀ {c} {ds : List Char}, rest <:+ ds → rest <:+ c :: ds :=
    fun h => h.trans (List.suffix_cons _ _)
  unfold readGroup at h
  split at h
  all_goals first
    | (cases h; done)
    | exact hcons (hcons (hcons (readName_suffix h)))
    | exact hcons (hcons (readName_suffix h))
    | exact hcons (readGroupFlags_suffix h)
    | (cases h
       exact List.suffix_refl _)

theorem readCount_suffix (cs : List Char) : (readCount cs).2 <:+ cs := by
  have hrest : ((cs.dropWhile Text.isBlank).dropWhile Char.isDigit).dropWhile Text.isBlank <:+ cs :=
    ((List.dropWhile_suffix _).trans (List.dropWhile_suffix _)).trans (List.dropWhile_suffix _)
  unfold readCount
  simp only
  split <;> exact hrest

theorem readRepetition_suffix {cs rest : List Char} {t : Token}
    (h : readRepetition cs = .ok (t, rest)) : rest <:+ cs := by
  -- a count and the character behind it are taken
  have hcount : ∀ {ds r : List Char} {n c}, readCount ds = (n, c :: r) → r <:+ ds := by
    intro ds r n c hr
    have hsuffix := readCount_suffix ds
    rw [hr] at hsuffix
    exact (List.suffix_cons c r).trans hsuffix
  unfold readRepetition at h
  split at h
  · rename_i hr
    cases h
    exact (skipLazy_suffix _).trans (hcount hr)
  · rename_i hr
    cases h
    exact ((skipLazy_suffix _).trans (List.suffix_cons _ _)).trans (hcount hr)
  · rename_i hr
    split at h
    · rename_i hr'
      split at h
      · cases h
        exact ((skipLazy_suffix _).trans (hcount hr')).trans (hcount hr)
      · cases h
    · cases h
  · cases h

/-- A token leaves the end of what follows its first character. -/
theorem Token.next_suffix {c : Char} {cs rest : List Char} {t : Token}
    (h : Token.next c cs = .ok (t, rest)) : rest <:+ cs := by
  unfold Token.next at h
  split at h
  all_goals first
    | exact readGroup_suffix h
    | exact readRepetition_suffix h
    | (split at h
       · rename_i hr
         cases h
         first
           | exact readBracket_suffix hr
           | exact readEscape_suffix hr
       · cases h)
    | (cases h
       first
         | exact skipLazy_suffix cs
         | exact List.suffix_refl _)

/-- The tokens of a text. -/
def tokens : List Char → Except Fault (List Token)
  | [] => .ok []
  | c :: cs =>
    match _h : Token.next c cs with
    | .ok (t, rest) =>
      match tokens rest with
      | .ok ts => .ok (t :: ts)
      | .error f => .error f
    | .error f => .error f
termination_by cs => cs.length
decreasing_by exact Nat.lt_succ_of_le (Token.next_suffix _h).length_le

end UsageIndex.Pattern
