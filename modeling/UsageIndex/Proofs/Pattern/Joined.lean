import Mathlib.Data.List.TakeWhile
import UsageIndex.Proofs.Pattern.Reading

/-!
# Tokens of joined texts

A reader that has come to the end of what it reads takes no notice of the text behind it, as long as
that text is detached from what was read. So the tokens of two texts, one behind the other, are
those of the first followed by those of the second.

* **`readEscape_append`**, **`readBracket_append`**, **`readGroup_append`**,
  **`readRepetition_append`**, **`Token.next_append`**: one lemma for each reader.
* **`tokens_append`**: the tokens of joined texts.
-/

namespace UsageIndex.Pattern

/-- What stops a scan stops it in front of any further text. -/
theorem scan_append {α : Type} {p : α → Bool} {l rest : List α} {x : α}
    (h : l.dropWhile p = x :: rest) (m : List α) :
    (l ++ m).takeWhile p = l.takeWhile p ∧ (l ++ m).dropWhile p = x :: (rest ++ m) := by
  induction l with
  | nil => cases h
  | cons a l ih =>
    by_cases ha : p a = true
    · rw [List.dropWhile_cons_of_pos ha] at h
      rw [List.cons_append, List.takeWhile_cons_of_pos ha, List.takeWhile_cons_of_pos ha,
        List.dropWhile_cons_of_pos ha, (ih h).1, (ih h).2]
      exact ⟨rfl, rfl⟩
    · rw [List.dropWhile_cons_of_neg ha] at h
      cases h
      rw [List.cons_append, List.takeWhile_cons_of_neg ha, List.takeWhile_cons_of_neg ha,
        List.dropWhile_cons_of_neg ha]
      exact ⟨rfl, rfl⟩

/-- The same, without a look at what stops the scan. -/
theorem scan_append_of_ne_nil {α : Type} {p : α → Bool} {l : List α} (h : l.dropWhile p ≠ [])
    (m : List α) :
    (l ++ m).takeWhile p = l.takeWhile p ∧ (l ++ m).dropWhile p = l.dropWhile p ++ m := by
  obtain ⟨x, rest, hdrop⟩ := List.exists_cons_of_ne_nil h
  obtain ⟨htake, hdrop'⟩ := scan_append hdrop m
  refine ⟨htake, ?_⟩
  rw [hdrop', hdrop, List.cons_append]

section

variable {cs ds rest : List Char}

/-! ## Escapes -/

theorem readHex_append {digits : Nat} {e : Escape} (h : readHex digits cs = .ok (e, rest)) :
    readHex digits (cs ++ ds) = .ok (e, rest ++ ds) := by
  unfold readHex at h
  split at h
  · rename_i cs
    split at h
    · rename_i c x rest' hc hd
      cases h
      obtain ⟨htake, hdrop⟩ := scan_append hd ds
      unfold readHex
      simp only [List.cons_append, htake, hdrop, hc]
    · cases h
  · rename_i hbrace
    split at h
    · rename_i hlength
      split at h
      · rename_i c hc
        cases h
        have hle : digits ≤ cs.length := by
          rw [← hlength, List.length_take]
          exact Nat.min_le_right _ _
        have htake : (cs ++ ds).take digits = cs.take digits := List.take_append_of_le_length hle
        have hdrop : (cs ++ ds).drop digits = cs.drop digits ++ ds :=
          List.drop_append_of_le_length hle
        unfold readHex
        split
        · rename_i heq
          cases cs with
          | nil =>
            rw [List.take_nil] at hc
            cases hc
          | cons d cs =>
            cases heq
            exact absurd rfl (hbrace cs)
        · rw [htake, hdrop, if_pos hlength]
          simp only [hc]
      · cases h
    · cases h

theorem readWordEdge_append {e : Escape} (h : readWordEdge cs = .ok (e, rest)) (hds : Detached ds) :
    readWordEdge (cs ++ ds) = .ok (e, rest ++ ds) := by
  unfold readWordEdge at h
  split at h
  · rename_i cs
    cases cs with
    | nil => cases h
    | cons d cs =>
      simp only at h
      by_cases hd : isEdgeNameChar d = true
      · rw [if_pos hd] at h
        split at h
        · rename_i a rest' ha hrest
          cases h
          obtain ⟨htake, hdrop⟩ := scan_append hrest ds
          rw [List.cons_append] at htake hdrop
          unfold readWordEdge
          simp only [List.cons_append, htake, hdrop, if_pos hd, ha]
        · cases h
      · rw [if_neg hd] at h
        cases h
        unfold readWordEdge
        simp only [List.cons_append, if_neg hd]
  · rename_i hbrace
    cases h
    unfold readWordEdge
    split
    · rename_i heq
      cases cs with
      | nil => exact absurd (congrArg List.head? heq) hds.2
      | cons d cs =>
        cases heq
        exact absurd rfl (hbrace cs)
    · rfl

theorem readEscapeOf_append {c : Char} {e : Escape} (h : readEscapeOf c cs = .ok (e, rest))
    (hds : Detached ds) : readEscapeOf c (cs ++ ds) = .ok (e, rest ++ ds) := by
  unfold readEscapeOf at h
  split at h
  · rename_i hc
    cases h
    unfold readEscapeOf
    rw [if_pos hc]
  · rename_i hc
    split at h
    all_goals first
      | exact readHex_append h
      | exact readWordEdge_append h hds
      | (cases h
         rfl)
      | cases h

theorem readEscape_append {e : Escape} (h : readEscape cs = .ok (e, rest)) (hds : Detached ds) :
    readEscape (cs ++ ds) = .ok (e, rest ++ ds) := by
  cases cs with
  | nil => cases h
  | cons c cs => exact readEscapeOf_append h hds

/-! ## Brackets -/

theorem readCaret_append (hcs : cs ≠ []) :
    readCaret (cs ++ ds) = ((readCaret cs).1, (readCaret cs).2 ++ ds) := by
  obtain ⟨c, cs, rfl⟩ := List.exists_cons_of_ne_nil hcs
  by_cases hc : c = '^'
  · subst hc
    rfl
  · simp [readCaret, hc]

/-- The start of a bracket is told as soon as something is left behind it. -/
theorem openBracket_append (h : (openBracket cs).2 ≠ []) :
    openBracket (cs ++ ds) = ((openBracket cs).1, (openBracket cs).2 ++ ds) := by
  have hcs : cs ≠ [] := by
    rintro rfl
    exact h rfl
  unfold openBracket at h ⊢
  simp only [readCaret_append hcs] at h ⊢
  generalize readCaret cs = r at h ⊢
  obtain ⟨negated, xs⟩ := r
  simp only at h ⊢
  cases hdrop : xs.dropWhile (· == '-') with
  | nil =>
    rw [hdrop] at h
    split at h
    · rename_i heq
      cases heq
    · exact absurd rfl h
  | cons y ys =>
    obtain ⟨htake, hdrop'⟩ := scan_append hdrop ds
    rw [htake, hdrop']
    by_cases hy : xs.takeWhile (· == '-') = [] ∧ y = ']'
    · obtain ⟨hnil, rfl⟩ := hy
      rw [hnil]
      rfl
    · split
      · rename_i h1 h2
        cases h2
        exact absurd ⟨h1, rfl⟩ hy
      · split
        · rename_i h1 h2
          cases h2
          exact absurd ⟨h1, rfl⟩ hy
        · rfl

/-- No class has a name with a closing bracket in it. -/
theorem ofName?_eq_none {name : List Char} (h : ']' ∈ name) : Posix.ofName? name = none := by
  have hnames : ∀ p ∈ Posix.names, ']' ∉ p.1 := by decide
  refine List.lookup_eq_none_iff.mpr fun p hp => ?_
  rw [bne_iff_ne]
  rintro rfl
  exact hnames p hp h

theorem readPosix?_append {p : Bracket} (h : readPosix? cs = some (p, rest)) :
    readPosix? (cs ++ ds) = some (p, rest ++ ds) := by
  unfold readPosix? at h
  split at h
  · rename_i cs
    simp only at h
    split at h
    · rename_i k rest' hk hdrop
      cases h
      have hcs : cs ≠ [] := by
        rintro rfl
        cases hdrop
      obtain ⟨htake, hdrop'⟩ := scan_append hdrop ds
      unfold readPosix?
      simp only [List.cons_append, readCaret_append hcs, htake, hdrop', hk]
    · cases h
  · cases h

/-- What is no class with a name becomes none by what stands behind a closing bracket. -/
theorem readPosix?_append_eq_none (h : readPosix? cs = none) (hcs : ']' ∈ cs) :
    readPosix? (cs ++ ds) = none := by
  cases cs with
  | nil => cases hcs
  | cons c cs =>
    by_cases hc : c = ':'
    · subst hc
      have hmem : ']' ∈ (readCaret cs).2 := by
        unfold readCaret
        split
        · simpa using hcs
        · simpa using hcs
      have hne : cs ≠ [] := by
        rintro rfl
        exact absurd hmem (by decide)
      unfold readPosix? at h ⊢
      simp only [List.cons_append, readCaret_append hne] at h ⊢
      generalize (readCaret cs).2 = xs at h hmem ⊢
      cases hdrop : xs.dropWhile (· != ':') with
      | nil =>
        -- the name is not ended before the closing bracket
        have hall := List.dropWhile_eq_nil_iff.mp hdrop
        have hname : ']' ∈ (xs ++ ds).takeWhile (· != ':') := by
          rw [List.takeWhile_append_of_pos hall]
          exact List.mem_append_left _ hmem
        rw [ofName?_eq_none hname]
      | cons y ys =>
        obtain ⟨htake, hdrop'⟩ := scan_append hdrop ds
        rw [htake, hdrop']
        rw [hdrop] at h
        cases ys with
        | cons z zs =>
          split
          · rename_i h1 h2
            cases h2
            simp [h1] at h
          · rfl
        | nil =>
          have hname : ']' ∈ xs.takeWhile (· != ':') := by
            rw [← List.takeWhile_append_dropWhile (p := (· != ':')) (l := xs), hdrop] at hmem
            have hstop := List.head_dropWhile_not (p := (· != ':')) (l := xs) (by simp [hdrop])
            have hy : y = ':' := by simpa [hdrop] using hstop
            subst hy
            simpa using hmem
          rw [ofName?_eq_none hname]
    · simp [readPosix?, hc]

theorem readItem_append {e : Escape} (h : readItem cs = .ok (e, rest)) (hds : Detached ds) :
    readItem (cs ++ ds) = .ok (e, rest ++ ds) := by
  cases cs with
  | nil => cases h
  | cons c cs =>
    by_cases hc : c = '\\'
    · subst hc
      exact readEscape_append h hds
    · have hitem : ∀ xs, readItem (c :: xs) = .ok (.char c, xs) := by
        intro xs
        simp [readItem]
      rw [hitem] at h
      cases h
      exact hitem _

/-- The two characters behind an item tell whether it begins a range. -/
theorem startsRange_cons_cons (c d : Char) (cs : List Char) :
    startsRange (c :: d :: cs) = (c == '-' && d != ']' && d != '-') := by
  by_cases hc : c = '-'
  · subst hc
    by_cases hd : d = ']'
    · subst hd
      rfl
    · by_cases hd' : d = '-'
      · subst hd'
        rfl
      · simp [startsRange, hd, hd']
  · simp [startsRange, hc]

theorem startsRange_append (h : rest ≠ []) (hdash : rest ≠ ['-']) :
    startsRange (rest ++ ds) = startsRange rest := by
  match rest with
  | [] => exact absurd rfl h
  | [c] =>
    have hc : c ≠ '-' := by simpa using hdash
    simp [startsRange, hc]
  | c :: d :: rest =>
    rw [List.cons_append, List.cons_append, startsRange_cons_cons, startsRange_cons_cons]

theorem readRange_append {p : Bracket} (h : readRange cs = .ok (p, rest)) (hrest : rest ≠ [])
    (hds : Detached ds) : readRange (cs ++ ds) = .ok (p, rest ++ ds) := by
  unfold readRange at h
  split at h
  · cases h
  · rename_i x xs hx
    unfold readRange
    simp only [readItem_append hx hds]
    split at h
    · rename_i hstart
      split at h
      · cases h
      · rename_i y ys hy
        have hxs : xs ≠ [] := by
          rintro rfl
          cases hstart
        have hdash : xs ≠ ['-'] := by
          rintro rfl
          cases hy
        have hdrop : (xs ++ ds).drop 1 = xs.drop 1 ++ ds :=
          List.drop_append_of_le_length (List.length_pos_iff.mpr hxs)
        rw [startsRange_append hxs hdash, if_pos hstart, hdrop]
        simp only [readItem_append hy hds]
        split at h
        · split at h
          · rename_i hle
            cases h
            simp only [if_pos hle]
          · cases h
        · cases h
    · rename_i hstart
      split at h
      · cases h
        have hdash : rest ≠ ['-'] := by
          rintro rfl
          exact hstart rfl
        rw [startsRange_append hrest hdash, if_neg hstart]
      · cases h

theorem readBracketFrom_posix {outer : List OpenBracket} {b : OpenBracket} {p : Bracket}
    (h : readPosix? cs = some (p, rest)) :
    readBracketFrom outer b ('[' :: cs) = readBracketFrom outer (b.add p) rest := by
  rw [readBracketFrom.eq_2]
  split
  · rename_i h'
    rw [h'] at h
    cases h
    rfl
  · rename_i h'
    rw [h'] at h
    cases h

theorem readBracketFrom_open {outer : List OpenBracket} {b : OpenBracket}
    (h : readPosix? cs = none) :
    readBracketFrom outer b ('[' :: cs) =
      readBracketFrom (b :: outer) (openBracket cs).1 (openBracket cs).2 := by
  rw [readBracketFrom.eq_2]
  split
  · rename_i h'
    rw [h'] at h
    cases h
  · rfl

/-- A class ends with the bracket that closes it. -/
theorem close_suffix_of_readBracketFrom {outer : List OpenBracket} {b : OpenBracket} {p : Bracket}
    (h : readBracketFrom outer b cs = .ok (p, rest)) : ']' :: rest <:+ cs := by
  fun_induction readBracketFrom outer b cs with
  | case1 => cases h
  | case2 _ _ _ _ _ hp ih =>
    exact ((ih h).trans (readPosix?_suffix hp)).trans (List.suffix_cons _ _)
  | case3 _ _ cs _ ih => exact ((ih h).trans (openBracket_suffix cs)).trans (List.suffix_cons _ _)
  | case4 =>
    cases h
    exact List.suffix_refl _
  | case5 _ _ _ _ ih => exact (ih h).trans (List.suffix_cons _ _)
  | case6 _ _ cs ih | case7 _ _ cs ih | case8 _ _ cs ih =>
    exact ((ih h).trans (List.suffix_cons _ cs)).trans (List.suffix_cons _ _)
  | case9 _ _ _ _ _ _ _ _ _ _ _ hr ih =>
    exact ((ih h).trans (readRange_suffix hr)).trans (List.suffix_cons _ _)
  | case10 => cases h

theorem mem_of_readBracketFrom {outer : List OpenBracket} {b : OpenBracket} {p : Bracket}
    (h : readBracketFrom outer b cs = .ok (p, rest)) : ']' ∈ cs :=
  (close_suffix_of_readBracketFrom h).mem List.mem_cons_self

theorem readBracketFrom_append {outer : List OpenBracket} {b : OpenBracket} {p : Bracket}
    (h : readBracketFrom outer b cs = .ok (p, rest)) (hds : Detached ds) :
    readBracketFrom outer b (cs ++ ds) = .ok (p, rest ++ ds) := by
  fun_induction readBracketFrom outer b cs with
  | case1 => cases h
  | case2 outer b cs q rest' hq ih =>
    rw [List.cons_append, readBracketFrom_posix (readPosix?_append hq)]
    exact ih h
  | case3 outer b cs hq ih =>
    have hmem := mem_of_readBracketFrom h
    have hopen : openBracket (cs ++ ds) = ((openBracket cs).1, (openBracket cs).2 ++ ds) :=
      openBracket_append (List.ne_nil_of_mem hmem)
    have hq' : readPosix? (cs ++ ds) = none :=
      readPosix?_append_eq_none hq ((openBracket_suffix cs).mem hmem)
    rw [List.cons_append, readBracketFrom_open hq', hopen]
    exact ih h
  | case4 =>
    cases h
    rw [List.cons_append, readBracketFrom.eq_3]
  | case5 _ cs b' outer ih =>
    rw [List.cons_append, readBracketFrom.eq_4]
    exact ih h
  | case6 outer b cs ih =>
    rw [List.cons_append, List.cons_append, readBracketFrom.eq_5]
    exact ih h
  | case7 outer b cs ih =>
    rw [List.cons_append, List.cons_append, readBracketFrom.eq_6]
    exact ih h
  | case8 outer b cs ih =>
    rw [List.cons_append, List.cons_append, readBracketFrom.eq_7]
    exact ih h
  | case9 outer b c cs h1 h2 h3 h4 h5 q rest' hq ih =>
    have hrest := List.ne_nil_of_mem (mem_of_readBracketFrom h)
    have hcs : cs ≠ [] := fun hnil => hrest (List.suffix_nil.mp (hnil ▸ readRange_suffix hq))
    -- two characters tell an operation, and here none follows
    obtain ⟨d, cs, rfl⟩ := List.exists_cons_of_ne_nil hcs
    have hc : c ∉ ['[', ']'] := by simpa using ⟨h1, h2⟩
    have hop : c ∈ ['&', '-', '~'] → (d :: (cs ++ ds)).head? ≠ some c := by
      intro hmem hd
      cases hd
      simp only [List.mem_cons, List.not_mem_nil, or_false] at hmem
      obtain rfl | rfl | rfl := hmem
      · exact h3 cs rfl rfl
      · exact h4 cs rfl rfl
      · exact h5 cs rfl rfl
    have hq' := readRange_append hq hrest hds
    rw [List.cons_append, List.cons_append] at hq' ⊢
    rw [readBracketFrom_range hc hop hq']
    exact ih h
  | case10 => cases h

/-- **A class** is read up to the bracket that closes it, whatever stands behind. -/
theorem readBracket_append {p : Bracket} (h : readBracket cs = .ok (p, rest)) (hds : Detached ds) :
    readBracket (cs ++ ds) = .ok (p, rest ++ ds) := by
  have hopen : openBracket (cs ++ ds) = ((openBracket cs).1, (openBracket cs).2 ++ ds) :=
    openBracket_append (List.ne_nil_of_mem (mem_of_readBracketFrom h))
  unfold readBracket
  rw [hopen]
  exact readBracketFrom_append h hds

/-! ## Groups -/

theorem readName_append {t : Token} (h : readName cs = .ok (t, rest)) :
    readName (cs ++ ds) = .ok (t, rest ++ ds) := by
  unfold readName at h
  simp only at h
  split at h
  · rename_i hdrop
    obtain ⟨htake, hdrop'⟩ := scan_append hdrop ds
    split at h
    · rename_i hname
      cases h
      unfold readName
      simp only [htake, hdrop', if_pos hname]
    · cases h
  · cases h

theorem readGroupFlags_append {t : Token} (h : readGroupFlags cs = .ok (t, rest)) :
    readGroupFlags (cs ++ ds) = .ok (t, rest ++ ds) := by
  unfold readGroupFlags at h
  simp only at h
  split at h
  · cases h
  · rename_i c rest' hdrop
    obtain ⟨htake, hdrop'⟩ := scan_append hdrop ds
    unfold readGroupFlags
    simp only [htake, hdrop']
    split at h
    · cases h
    · by_cases hc : (c == ':') = true
      · rw [if_pos hc] at h ⊢
        cases h
        rfl
      · rw [if_neg hc] at h ⊢
        split at h
        · cases h
        · rename_i hbody
          cases h
          rw [if_neg hbody]

theorem readGroup_flags {c : Char} (hc : c ∉ ['=', '!', '<'])
    (hname : c = 'P' → cs.head? ≠ some '<') :
    readGroup ('?' :: c :: cs) = readGroupFlags (c :: cs) := by
  rw [readGroup.eq_def]
  split
  case h_5 heq =>
    cases heq
    exact absurd rfl (hname rfl)
  case h_7 heq =>
    cases heq
    rfl
  case h_8 hmark => exact absurd rfl (hmark _)
  all_goals
    rename_i heq
    cases heq
    exact absurd (by decide) hc

/-- What tells the flags of a group from what else may follow its question mark. -/
theorem flags_head {c : Char} (hequals : ∀ xs, c :: cs = '=' :: xs → False)
    (hbang : ∀ xs, c :: cs = '!' :: xs → False) (hname : ∀ xs, c :: cs = 'P' :: '<' :: xs → False)
    (hangle : ∀ xs, c :: cs = '<' :: xs → False) :
    c ∉ ['=', '!', '<'] ∧ (c = 'P' → cs.head? ≠ some '<') := by
  refine ⟨?_, ?_⟩
  · simp only [List.mem_cons, List.not_mem_nil, or_false, not_or]
    exact ⟨fun hc => hequals cs (hc ▸ rfl), fun hc => hbang cs (hc ▸ rfl),
      fun hc => hangle cs (hc ▸ rfl)⟩
  · rintro rfl hd
    obtain ⟨xs, rfl⟩ := List.head?_eq_some_iff.mp hd
    exact hname xs rfl

theorem readGroup_plain (h : cs.head? ≠ some '?') : readGroup cs = .ok (.openCapture none, cs) := by
  rw [readGroup.eq_def]
  split
  case h_8 => rfl
  all_goals exact absurd rfl h

theorem readGroup_append {t : Token} (h : readGroup cs = .ok (t, rest)) (hds : Detached ds) :
    readGroup (cs ++ ds) = .ok (t, rest ++ ds) := by
  fun_cases readGroup cs with
  | case1 | case2 | case3 | case4 => cases h
  | case5 cs => exact readName_append h
  | case6 cs hequals hbang =>
    have hcs : cs ≠ [] := by
      rintro rfl
      cases h
    obtain ⟨c, cs, rfl⟩ := List.exists_cons_of_ne_nil hcs
    have hgroup : ∀ xs, readGroup ('?' :: '<' :: c :: xs) = readName (c :: xs) := by
      have hc : c ≠ '=' ∧ c ≠ '!' := by simpa using And.intro hequals hbang
      intro xs
      simp [readGroup, hc]
    rw [hgroup] at h
    exact (hgroup _).trans (readName_append h)
  | case7 cs hequals hbang _ _ hname hangle =>
    have hcs : cs ≠ [] := by
      rintro rfl
      cases h
    obtain ⟨c, cs, rfl⟩ := List.exists_cons_of_ne_nil hcs
    obtain ⟨hc, hangle'⟩ := flags_head hequals hbang hname hangle
    rw [readGroup_flags hc hangle'] at h
    have hjoined : c = 'P' → (cs ++ ds).head? ≠ some '<' := by
      rintro rfl
      cases cs with
      | nil => cases h
      | cons d cs => exact hangle' rfl
    exact (readGroup_flags hc hjoined).trans (readGroupFlags_append h)
  | case8 cs _ _ _ _ _ _ hmark =>
    have hcs : cs.head? ≠ some '?' := by
      intro hd
      obtain ⟨cs', rfl⟩ := List.head?_eq_some_iff.mp hd
      exact hmark cs' rfl
    have hjoined : (cs ++ ds).head? ≠ some '?' := by
      cases cs with
      | nil => exact hds.1
      | cons c cs => exact hcs
    rw [readGroup_plain hcs] at h
    cases h
    exact readGroup_plain hjoined

/-! ## Repetitions -/

theorem skipLazy_append (hds : Detached ds) : skipLazy (cs ++ ds) = skipLazy cs ++ ds := by
  cases cs with
  | nil => exact hds.skipLazy_eq
  | cons c cs =>
    by_cases hc : c = '?'
    · subst hc
      rfl
    · simp [skipLazy, hc]

theorem readCount_append (h : (readCount cs).2 ≠ []) :
    readCount (cs ++ ds) = ((readCount cs).1, (readCount cs).2 ++ ds) := by
  have hrest :
      ((cs.dropWhile Text.isBlank).dropWhile Char.isDigit).dropWhile Text.isBlank ≠ [] := by
    unfold readCount at h
    simp only at h
    split at h <;> exact h
  have hdigits : (cs.dropWhile Text.isBlank).dropWhile Char.isDigit ≠ [] := fun hnil =>
    hrest (by rw [hnil, List.dropWhile_nil])
  have hblanks : cs.dropWhile Text.isBlank ≠ [] := fun hnil =>
    hdigits (by rw [hnil, List.dropWhile_nil])
  obtain ⟨-, hdrop⟩ := scan_append_of_ne_nil hblanks ds
  obtain ⟨htake', hdrop'⟩ := scan_append_of_ne_nil hdigits ds
  obtain ⟨-, hdrop''⟩ := scan_append_of_ne_nil hrest ds
  unfold readCount
  simp only [hdrop, htake', hdrop', hdrop'']
  split <;> rfl

theorem readRepetition_append {t : Token} (h : readRepetition cs = .ok (t, rest))
    (hds : Detached ds) : readRepetition (cs ++ ds) = .ok (t, rest ++ ds) := by
  have hcount : ∀ {xs r : List Char} {n c}, readCount xs = (n, c :: r) →
      readCount (xs ++ ds) = (n, c :: (r ++ ds)) := by
    intro xs r n c hr
    have hne : (readCount xs).2 ≠ [] := by
      rw [hr]
      exact List.cons_ne_nil _ _
    rw [readCount_append hne, hr, List.cons_append]
  unfold readRepetition at h
  split at h
  · rename_i hlo
    cases h
    unfold readRepetition
    simp only [hcount hlo, skipLazy_append hds]
  · rename_i hlo
    cases h
    unfold readRepetition
    simp only [hcount hlo, List.cons_append, skipLazy_append hds]
  · rename_i lo xs hbrace hlo
    split at h
    · rename_i hi r hhi
      split at h
      · rename_i hle
        cases h
        have hxs : xs ≠ [] := by
          rintro rfl
          cases hhi
        obtain ⟨d, xs, rfl⟩ := List.exists_cons_of_ne_nil hxs
        have hd : d ≠ '\x7d' := fun hd => hbrace xs (hd ▸ rfl)
        have hhi' := hcount hhi
        rw [List.cons_append] at hhi'
        unfold readRepetition
        simp [hcount hlo, hd, hhi', hle, skipLazy_append hds]
      · cases h
    · cases h
  · cases h

/-! ## Tokens -/

/-- **A token** that is read is read in front of any text that does not go on with it. -/
theorem Token.next_append {c : Char} {t : Token} (h : Token.next c cs = .ok (t, rest))
    (hds : Detached ds) : Token.next c (cs ++ ds) = .ok (t, rest ++ ds) := by
  unfold Token.next at h ⊢
  split at h
  all_goals first
    | exact readGroup_append h hds
    | exact readRepetition_append h hds
    | (split at h
       · rename_i hr
         cases h
         first
           | simp only [readBracket_append hr hds]
           | simp only [readEscape_append hr hds]
       · cases h)
    | (cases h
       simp only [skipLazy_append hds])

/-- **The tokens of joined texts** are those of the first and then those of the second. -/
theorem tokens_append {ts us : List Token} (h : tokens cs = .ok ts) (hds : Detached ds)
    (h' : tokens ds = .ok us) : tokens (cs ++ ds) = .ok (ts ++ us) := by
  fun_induction tokens cs generalizing ts with
  | case1 =>
    cases h
    exact h'
  | case2 c cs t rest hnext ts' hrest ih =>
    cases h
    exact tokens_cons (Token.next_append hnext hds) (ih hrest)
  | case3 | case4 => cases h

end

end UsageIndex.Pattern
