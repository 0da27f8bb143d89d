import UsageIndex.Pattern.Compiled

/-!
# Reading patterns piece by piece

A pattern that is put together from pieces is read piece by piece: what a piece makes does not
depend on the pieces around it.

* **`Reads`**: the tokens of a text, in front of any text that is `Detached` from it.
* **`Adds`**: the parts that tokens add to the group in which they stand.
* **`Writes`**: both together, for a text. `Writes.append` and `Writes.flatMap` put texts together.
-/

namespace UsageIndex.Pattern

/-! ## Tokens -/

/-- A text does not begin with a character that would belong to what stands before it. -/
def Detached (cs : List Char) : Prop := cs.head? ≠ some '?' ∧ cs.head? ≠ some '\x7b'

theorem detached_cons {c : Char} {cs : List Char} (h : c ≠ '?' ∧ c ≠ '\x7b') :
    Detached (c :: cs) := by
  simpa [Detached] using h

theorem Detached.skipLazy_eq {cs : List Char} (h : Detached cs) : skipLazy cs = cs := by
  unfold skipLazy
  split
  · exact absurd rfl h.1
  · rfl

theorem tokens_nil : tokens [] = .ok [] := by rw [tokens]

theorem tokens_cons_eq_ok_iff {c : Char} {cs : List Char} {ts : List Token} :
    tokens (c :: cs) = .ok ts ↔ ∃ t rest us, Token.next c cs = .ok (t, rest) ∧
      tokens rest = .ok us ∧ ts = t :: us := by
  rw [tokens]
  split
  · rename_i t rest h
    constructor
    · intro hts
      cases hrest : tokens rest with
      | ok us =>
        simp only [hrest, Except.ok.injEq] at hts
        exact ⟨t, rest, us, h, hrest, hts.symm⟩
      | error f => simp [hrest] at hts
    · rintro ⟨t', rest', us, h', hus, rfl⟩
      rw [h] at h'
      cases h'
      rw [hus]
  · rename_i f h
    simp [h]

theorem tokens_cons {c : Char} {cs rest : List Char} {t : Token} {ts : List Token}
    (h : Token.next c cs = .ok (t, rest)) (hrest : tokens rest = .ok ts) :
    tokens (c :: cs) = .ok (t :: ts) :=
  tokens_cons_eq_ok_iff.mpr ⟨t, rest, ts, h, hrest, rfl⟩

/-- In front of any text that is detached from it, the text `cs` is read as the tokens `ts`. -/
structure Reads (cs : List Char) (ts : List Token) : Prop where
  detached : ∀ {rest}, Detached rest → Detached (cs ++ rest)
  tokens : ∀ {rest us}, Detached rest → tokens rest = .ok us → tokens (cs ++ rest) = .ok (ts ++ us)

theorem Reads.nil : Reads [] [] := ⟨fun h => h, fun _ h => h⟩

theorem Reads.append {cs ds : List Char} {ts us : List Token} (h : Reads cs ts) (h' : Reads ds us) :
    Reads (cs ++ ds) (ts ++ us) := by
  constructor
  · intro rest hrest
    rw [List.append_assoc]
    exact h.detached (h'.detached hrest)
  · intro rest vs hrest hvs
    rw [List.append_assoc, List.append_assoc]
    exact h.tokens (h'.detached hrest) (h'.tokens hrest hvs)

theorem not_isMeta_cases {c : Char} (h : isMeta c = false) : c ∉ metaChars := by
  unfold isMeta at h
  exact of_decide_eq_false h

theorem next_char {c : Char} (h : isMeta c = false) (cs : List Char) :
    Token.next c cs = .ok (.char c, cs) := by
  have hc := not_isMeta_cases h
  unfold Token.next
  split
  all_goals first
    | rfl
    | exact absurd (by decide) hc

theorem next_escaped {c : Char} (h : isMeta c = true) (cs : List Char) :
    Token.next '\\' (c :: cs) = .ok (.char c, cs) := by
  have hc : isEscapable c = true := by
    unfold isEscapable
    rw [h, Bool.true_or]
  unfold Token.next readEscape readEscapeOf
  simp only [if_pos hc, Escape.toToken]

/-- **A literal character is read as itself.** -/
theorem reads_escapeChar (c : Char) : Reads (escapeChar c) [.char c] := by
  unfold escapeChar
  by_cases h : isMeta c = true
  · rw [if_pos h]
    exact ⟨fun _ => detached_cons (by decide), fun _ hus => tokens_cons (next_escaped h _) hus⟩
  · rw [if_neg h]
    have hc : isMeta c = false := by simpa using h
    refine ⟨fun _ => detached_cons ⟨?_, ?_⟩, fun _ hus => tokens_cons (next_char hc _) hus⟩
    · rintro rfl
      exact h (by decide)
    · rintro rfl
      exact h (by decide)

theorem reads_dot : Reads ['.'] [.anyChar] :=
  ⟨fun _ => detached_cons (by decide), fun _ hus => tokens_cons rfl hus⟩

theorem reads_star : Reads ['*'] [.repetition 0 none] := by
  refine ⟨fun _ => detached_cons (by decide), fun hrest hus => tokens_cons ?_ hus⟩
  exact congrArg (fun cs => Except.ok (Token.repetition 0 none, cs)) hrest.skipLazy_eq

theorem reads_plus : Reads ['+'] [.repetition 1 none] := by
  refine ⟨fun _ => detached_cons (by decide), fun hrest hus => tokens_cons ?_ hus⟩
  exact congrArg (fun cs => Except.ok (Token.repetition 1 none, cs)) hrest.skipLazy_eq

/-- The class of all characters but the dot. -/
def notDot : Bracket := .group true (.union .nothing (.single '.'))

/-- Inside a bracket, a range that begins neither with a bracket nor like an operation is added. -/
theorem readBracketFrom_range {outer : List OpenBracket} {b : OpenBracket} {c : Char}
    {cs rest : List Char} {p : Bracket} (hc : c ∉ ['[', ']'])
    (hop : c ∈ ['&', '-', '~'] → cs.head? ≠ some c) (h : readRange (c :: cs) = .ok (p, rest)) :
    readBracketFrom outer b (c :: cs) = readBracketFrom outer (b.add p) rest := by
  rw [readBracketFrom.eq_def]
  split
  case h_1 heq => cases heq
  case h_2 heq | h_3 heq =>
    cases heq
    exact absurd (by decide) hc
  case h_4 heq | h_5 heq | h_6 heq =>
    cases heq
    exact absurd rfl (hop (by decide))
  case h_7 heq =>
    cases heq
    split
    · rename_i p' rest' h'
      rw [h'] at h
      cases h
      rfl
    · rename_i f h'
      rw [h'] at h
      cases h

theorem readBracketFrom_close (b : OpenBracket) (cs : List Char) :
    readBracketFrom [] b (']' :: cs) = .ok (b.close, cs) := by
  rw [readBracketFrom.eq_def]
  rfl

theorem readBracket_notDot (cs : List Char) :
    readBracket ('^' :: '\\' :: '.' :: ']' :: cs) = .ok (notDot, cs) := by
  have hopen : openBracket ('^' :: '\\' :: '.' :: ']' :: cs) =
      (⟨true, none, .nothing⟩, '\\' :: '.' :: ']' :: cs) := rfl
  have hdot : readRange ('\\' :: '.' :: ']' :: cs) = .ok (.single '.', ']' :: cs) := rfl
  have hop : '\\' ∈ ['&', '-', '~'] → ('.' :: ']' :: cs).head? ≠ some '\\' :=
    fun h => absurd h (by decide)
  unfold readBracket
  rw [hopen, readBracketFrom_range (by decide) hop hdot, readBracketFrom_close]
  rfl

theorem reads_notDot : Reads ['[', '^', '\\', '.', ']'] [.bracket notDot] := by
  refine ⟨fun _ => detached_cons (by decide), fun {rest _} _ hus => tokens_cons ?_ hus⟩
  have h := readBracket_notDot rest
  unfold Token.next
  simp only [List.append_eq, List.cons_append, List.nil_append, h]

/-! ## Parts -/

/-- An outline with parts added to the innermost group. -/
def Outline.extend (o : Outline) (parts : List Tree) (repeatable : Bool) : Outline :=
  { o with
    level := { o.level with parts := parts.reverse ++ o.level.parts, repeatable := repeatable } }

theorem Outline.extend_extend (o : Outline) (parts parts' : List Tree) (b b' : Bool) :
    (o.extend parts b).extend parts' b' = o.extend (parts ++ parts') b' := by
  unfold extend
  simp only [List.reverse_append, List.append_assoc]

/-- The tokens `ts` add `parts` to a group in which the flags of a whole pattern hold. -/
def Adds (ts : List Token) (parts : List Tree) : Prop :=
  ∀ o : Outline, o.level.flags = baseFlags false → ∃ b, o.pushAll ts = .ok (o.extend parts b)

theorem pushAll_cons {o o' : Outline} {t : Token} (h : o.push t = .ok o') (ts : List Token) :
    o.pushAll (t :: ts) = o'.pushAll ts := by
  rw [Outline.pushAll, h]

theorem pushAll_append {o o' : Outline} {ts : List Token} (h : o.pushAll ts = .ok o')
    (us : List Token) : o.pushAll (ts ++ us) = o'.pushAll us := by
  induction ts generalizing o with
  | nil =>
    cases h
    rfl
  | cons t ts ih =>
    rw [Outline.pushAll] at h
    cases ho : o.push t with
    | error f => simp [ho] at h
    | ok p =>
      simp only [ho] at h
      rw [List.cons_append, pushAll_cons ho]
      exact ih h

theorem Adds.nil : Adds [] [] := fun o _ => ⟨o.level.repeatable, rfl⟩

theorem Adds.append {ts us : List Token} {parts parts' : List Tree} (h : Adds ts parts)
    (h' : Adds us parts') : Adds (ts ++ us) (parts ++ parts') := by
  intro o ho
  obtain ⟨b, hb⟩ := h o ho
  obtain ⟨b', hb'⟩ := h' (o.extend parts b) ho
  refine ⟨b', ?_⟩
  rw [pushAll_append hb, hb', Outline.extend_extend]

/-- A token that consumes one character, repeated or not. -/
theorem adds_one {t : Token} {s : CharSet} {h : Nat}
    (ht : ∀ o : Outline, o.level.flags = baseFlags false → o.push t = .ok (o.add (.one s h))) :
    Adds [t] [.one s h] ∧ ∀ lo hi, Adds [t, .repetition lo hi] [.rep (.one s h) lo hi] := by
  refine ⟨fun o ho => ⟨true, ?_⟩, fun lo hi o ho => ⟨true, ?_⟩⟩
  · rw [pushAll_cons (ht o ho)]
    rfl
  · rw [pushAll_cons (ht o ho)]
    rfl

theorem push_char (c : Char) (o : Outline) (ho : o.level.flags = baseFlags false) :
    o.push (.char c) = .ok (o.add (.one (.single c) 0)) := by
  simp only [Outline.push, ho]
  rfl

theorem push_anyChar (o : Outline) (ho : o.level.flags = baseFlags false) :
    o.push .anyChar = .ok (o.add (.one .all 0)) := by
  simp only [Outline.push, ho]
  rfl

theorem push_bracket (p : Bracket) (o : Outline) (ho : o.level.flags = baseFlags false) :
    o.push (.bracket p) = .ok (o.add (.one (p.toSet false) p.height)) := by
  simp only [Outline.push, ho]
  rfl

/-! ## Texts -/

/-- A text writes parts: it is read as tokens that add them. -/
def Writes (cs : List Char) (parts : List Tree) : Prop := ∃ ts, Reads cs ts ∧ Adds ts parts

theorem Writes.nil : Writes [] [] := ⟨[], .nil, .nil⟩

theorem Writes.append {cs ds : List Char} {parts parts' : List Tree} (h : Writes cs parts)
    (h' : Writes ds parts') : Writes (cs ++ ds) (parts ++ parts') := by
  obtain ⟨ts, hts, hadds⟩ := h
  obtain ⟨us, hus, hadds'⟩ := h'
  exact ⟨ts ++ us, hts.append hus, hadds.append hadds'⟩

theorem writes_escapeChar (c : Char) : Writes (escapeChar c) [.one (.single c) 0] :=
  ⟨_, reads_escapeChar c, (adds_one (push_char c)).1⟩

theorem writes_dot : Writes ['.'] [.one .all 0] := ⟨_, reads_dot, (adds_one push_anyChar).1⟩

theorem writes_dotStar : Writes ['.', '*'] [.rep (.one .all 0) 0 none] :=
  ⟨_, reads_dot.append reads_star, (adds_one push_anyChar).2 0 none⟩

theorem writes_notDotPlus : Writes ['[', '^', '\\', '.', ']', '+']
    [.rep (.one (notDot.toSet false) 1) 1 none] :=
  ⟨_, reads_notDot.append reads_plus, (adds_one (push_bracket notDot)).2 1 none⟩

end UsageIndex.Pattern
