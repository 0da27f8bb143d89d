import UsageIndex.Proofs.WholeTexts

/-!
# Where a group is closed

The tokens in front of one that closes a group are those of the text in front of its parenthesis:
no reader looks behind a closing parenthesis that it leaves. So a text that becomes a pattern in a
group either is one alone, or closes the group behind a pattern.

* **`scan_cut`**, **`scan_close`**: what is read in front of a text does not depend on it.
* **`readEscape_cut`**, **`readBracket_cut`**, **`readGroup_cut`**, **`readRepetition_cut`**,
  **`Token.next_cut`**: one lemma for each reader.
* **`tokens_split`**: the tokens in front of a closing one.
* **`isPattern_or_closes`**: what a text is that becomes a pattern in a group.
-/

namespace UsageIndex.Pattern

/-! ## Scans -/

/-- What is left of a scan tells what it passed over. -/
theorem scan_cut {α : Type} {p : α → Bool} {l m rest : List α} {x : α}
    (h : (l ++ m).dropWhile p = x :: (rest ++ m)) :
    (l ++ m).takeWhile p = l.takeWhile p ∧ l.dropWhile p = x :: rest := by
  induction l with
  | nil =>
    have hlength := (List.dropWhile_suffix (l := m) p).length_le
    rw [List.nil_append] at h
    rw [h, List.length_cons, List.length_append] at hlength
    omega
  | cons a l ih =>
    by_cases ha : p a = true
    · rw [List.cons_append, List.dropWhile_cons_of_pos ha] at h
      rw [List.cons_append, List.takeWhile_cons_of_pos ha, List.takeWhile_cons_of_pos ha,
        List.dropWhile_cons_of_pos ha, (ih h).1, (ih h).2]
      exact ⟨rfl, rfl⟩
    · rw [List.cons_append, List.dropWhile_cons_of_neg ha] at h
      obtain ⟨rfl, hrest⟩ := List.cons.inj h
      rw [List.cons_append, List.takeWhile_cons_of_neg ha, List.takeWhile_cons_of_neg ha,
        List.dropWhile_cons_of_neg ha]
      exact ⟨rfl, congrArg _ (List.append_cancel_right hrest)⟩

section

variable {cs ds rest v : List Char} {c : Char}

/-- A parenthesis stops a scan that does not pass over it. -/
theorem scan_close {p : Char → Bool} (hp : p ')' = false) (l : List Char) :
    (l ++ ')' :: v).takeWhile p = l.takeWhile p ∧
      (l ++ ')' :: v).dropWhile p = l.dropWhile p ++ ')' :: v := by
  cases hdrop : l.dropWhile p with
  | nil =>
    have hall := List.dropWhile_eq_nil_iff.mp hdrop
    rw [List.takeWhile_append_of_pos hall, List.dropWhile_append_of_pos hall,
      List.takeWhile_eq_self_iff.mpr hall]
    simp [hp]
  | cons x rest => exact scan_append hdrop _

theorem exists_cons_of_append_close (h : cs ++ ')' :: v = c :: ds) (hc : c ≠ ')') :
    ∃ cs', cs = c :: cs' ∧ ds = cs' ++ ')' :: v := by
  cases cs with
  | nil =>
    cases h
    exact absurd rfl hc
  | cons d cs =>
    cases h
    exact ⟨cs, rfl, rfl⟩

theorem exists_append_of_suffix (h : rest ++ ds <:+ cs) : ∃ w, cs = w ++ rest ++ ds := by
  obtain ⟨w, hw⟩ := h
  exact ⟨w, by rw [← hw, List.append_assoc]⟩

/-- What is read and what is left in front of a text are the same with the text behind. -/
theorem eq_of_ok_append {α : Type} {a b : α}
    (h : (.ok (a, cs ++ ds) : Except Fault (α × List Char)) = .ok (b, rest ++ ds)) :
    a = b ∧ cs = rest := by
  obtain ⟨ha, hcs⟩ := Prod.mk.inj (Except.ok.inj h)
  exact ⟨ha, List.append_cancel_right hcs⟩

/-- No text is a proper end of itself. -/
theorem not_append_suffix_tail (hds : ds ≠ []) : ¬ rest ++ ds <:+ ds.tail := by
  intro h
  have hlength := h.length_le
  have hpos := List.length_pos_iff.mpr hds
  rw [List.length_append, List.length_tail] at hlength
  omega

/-! ## Escapes -/

theorem readHex_cut {digits : Nat} {e : Escape}
    (h : readHex digits (cs ++ ')' :: v) = .ok (e, rest ++ ')' :: v)) :
    readHex digits cs = .ok (e, rest) := by
  unfold readHex at h
  split at h
  · rename_i heq
    obtain ⟨cs, rfl, rfl⟩ := exists_cons_of_append_close heq (by decide)
    split at h
    · rename_i c x rest' hc hd
      cases h
      obtain ⟨htake, hdrop⟩ := scan_cut hd
      rw [htake] at hc
      unfold readHex
      simp only [hc, hdrop]
    · cases h
  · rename_i hbrace
    split at h
    · rename_i hlength
      split at h
      · rename_i c hc
        obtain ⟨rfl, hrest⟩ := Prod.mk.inj (Except.ok.inj h)
        have hle : digits ≤ cs.length := by
          have hleft := congrArg List.length hrest
          simp only [List.length_drop, List.length_append, List.length_cons] at hleft
          omega
        rw [List.take_append_of_le_length hle] at hc hlength
        rw [List.drop_append_of_le_length hle] at hrest
        unfold readHex
        split
        · exact absurd rfl (hbrace _)
        · rw [if_pos hlength, ← List.append_cancel_right hrest]
          simp only [hc]
      · cases h
    · cases h

/-- An opening brace that is left has more behind it: alone it would begin the name of an edge. -/
theorem readWordEdge_cut {e : Escape}
    (h : readWordEdge (cs ++ ')' :: v) = .ok (e, rest ++ ')' :: v)) (hrest : rest ≠ ['\x7b']) :
    readWordEdge cs = .ok (e, rest) := by
  unfold readWordEdge at h
  split at h
  · rename_i heq
    obtain ⟨cs, rfl, rfl⟩ := exists_cons_of_append_close heq (by decide)
    cases cs with
    | nil =>
      have hleft : _ ∧ ['\x7b'] = rest := eq_of_ok_append h
      exact absurd hleft.2.symm hrest
    | cons d cs =>
      simp only [List.cons_append] at h
      by_cases hd : isEdgeNameChar d = true
      · rw [if_pos hd] at h
        split at h
        · rename_i a rest' ha hdrop
          cases h
          rw [← List.cons_append] at ha hdrop
          obtain ⟨htake, hdrop⟩ := scan_cut hdrop
          rw [htake] at ha
          unfold readWordEdge
          simp only [if_pos hd, ha, hdrop]
        · cases h
      · rw [if_neg hd, ← List.cons_append, ← List.cons_append] at h
        obtain ⟨rfl, rfl⟩ := eq_of_ok_append h
        unfold readWordEdge
        simp only [if_neg hd]
  · rename_i hbrace
    obtain ⟨rfl, rfl⟩ := eq_of_ok_append h
    unfold readWordEdge
    split
    · exact absurd rfl (hbrace _)
    · rfl

theorem readEscapeOf_cut {e : Escape}
    (h : readEscapeOf c (cs ++ ')' :: v) = .ok (e, rest ++ ')' :: v)) (hrest : rest ≠ ['\x7b']) :
    readEscapeOf c cs = .ok (e, rest) := by
  unfold readEscapeOf at h
  split at h
  · rename_i hc
    obtain ⟨rfl, rfl⟩ := eq_of_ok_append h
    unfold readEscapeOf
    rw [if_pos hc]
  · split at h
    all_goals first
      | exact readHex_cut h
      | exact readWordEdge_cut h hrest
      | (obtain ⟨rfl, rfl⟩ := eq_of_ok_append h
         rfl)
      | cases h

theorem readEscape_cut {e : Escape}
    (h : readEscape (cs ++ ')' :: v) = .ok (e, rest ++ ')' :: v)) (hrest : rest ≠ ['\x7b']) :
    readEscape cs = .ok (e, rest) := by
  cases cs with
  | nil => exact absurd (readEscapeOf_suffix h) (not_append_suffix_tail (List.cons_ne_nil ')' v))
  | cons c cs => exact readEscapeOf_cut h hrest

/-! ## Brackets -/

theorem readCaret_close :
    readCaret (cs ++ ')' :: v) = ((readCaret cs).1, (readCaret cs).2 ++ ')' :: v) := by
  cases cs with
  | nil => rfl
  | cons c cs => exact readCaret_append (List.cons_ne_nil _ _)

theorem openBracket_close :
    openBracket (cs ++ ')' :: v) = ((openBracket cs).1, (openBracket cs).2 ++ ')' :: v) := by
  unfold openBracket
  simp only [readCaret_close, scan_close (p := (· == '-')) (by decide)]
  generalize (readCaret cs).2 = xs
  cases xs.takeWhile (· == '-') with
  | cons d ds => rfl
  | nil =>
    cases xs.dropWhile (· == '-') with
    | nil => rfl
    | cons y ys =>
      by_cases hy : y = ']'
      · subst hy
        rfl
      · simp [hy]

theorem readPosix?_cut {p : Bracket}
    (h : readPosix? (cs ++ ')' :: v) = some (p, rest ++ ')' :: v)) :
    readPosix? cs = some (p, rest) := by
  unfold readPosix? at h
  split at h
  · rename_i heq
    obtain ⟨cs, rfl, rfl⟩ := exists_cons_of_append_close heq (by decide)
    simp only [readCaret_close] at h
    split at h
    · rename_i k rest' hk hdrop
      cases h
      obtain ⟨htake, hdrop⟩ : _ ∧ (readCaret cs).2.dropWhile (· != ':') = ':' :: ']' :: rest :=
        scan_cut hdrop
      rw [htake] at hk
      unfold readPosix?
      simp only [hk, hdrop]
    · cases h
  · cases h

theorem readItem_cut {e : Escape}
    (h : readItem (cs ++ ')' :: v) = .ok (e, rest ++ ')' :: v)) (hrest : rest ≠ ['\x7b']) :
    readItem cs = .ok (e, rest) := by
  cases cs with
  | nil => exact absurd (readItem_suffix h) (not_append_suffix_tail (List.cons_ne_nil _ _))
  | cons c cs =>
    by_cases hc : c = '\\'
    · subst hc
      exact readEscape_cut h hrest
    · have hitem : ∀ xs, readItem (c :: xs) = .ok (.char c, xs) := by
        intro xs
        simp [readItem]
      rw [List.cons_append, hitem] at h
      obtain ⟨rfl, rfl⟩ := eq_of_ok_append h
      exact hitem _

theorem startsRange_close : startsRange (cs ++ ')' :: v) = startsRange cs := by
  match cs with
  | [] => rfl
  | [c] =>
    by_cases hc : c = '-'
    · subst hc
      rfl
    · simp [startsRange, hc]
  | c :: d :: cs =>
    rw [List.cons_append, List.cons_append, startsRange_cons_cons, startsRange_cons_cons]

theorem readRange_cut {p : Bracket}
    (h : readRange (cs ++ ')' :: v) = .ok (p, rest ++ ')' :: v)) (hrest : ']' ∈ rest) :
    readRange cs = .ok (p, rest) := by
  have hbrace : ∀ {w : List Char}, ']' ∈ w → w ≠ ['\x7b'] := by
    rintro w hw rfl
    exact absurd hw (by decide)
  unfold readRange at h
  split at h
  · cases h
  · rename_i x xs hx
    split at h
    · rename_i hstart
      split at h
      · cases h
      · rename_i y ys hy
        have hys : ys = rest ++ ')' :: v := by
          split at h
          · split at h <;> cases h
            rfl
          · cases h
        subst hys
        obtain ⟨w, hw⟩ := exists_append_of_suffix
          ((readItem_suffix hy).trans (List.tail_suffix _))
        obtain ⟨d, xs, rfl⟩ : ∃ d xs', xs = d :: xs' := by
          refine List.exists_cons_of_ne_nil ?_
          rintro rfl
          cases hstart
        rw [List.drop_one, List.tail_cons] at hw hy
        subst hw
        rw [← List.cons_append] at hx hstart
        have hx' := readItem_cut hx
          (hbrace (List.mem_cons_of_mem d (List.mem_append_right w hrest)))
        have hy' := readItem_cut hy (hbrace hrest)
        rw [startsRange_close] at hstart
        unfold readRange
        simp only [hx', hstart, if_true, List.drop_one, List.tail_cons, hy']
        split at h
        · split at h
          · rename_i hle
            cases h
            simp only [if_pos hle]
          · cases h
        · cases h
    · rename_i hstart
      split at h
      · rename_i q hq
        cases h
        have hx' := readItem_cut hx (hbrace hrest)
        rw [startsRange_close] at hstart
        unfold readRange
        simp only [hx', if_neg hstart, hq]
      · cases h

theorem readBracketFrom_cut {outer : List OpenBracket} {b : OpenBracket} {p : Bracket}
    (h : readBracketFrom outer b (cs ++ ')' :: v) = .ok (p, rest ++ ')' :: v)) :
    readBracketFrom outer b cs = .ok (p, rest) := by
  -- what is left at some place has the closing bracket in it
  have hleft : ∀ {outer b xs}, readBracketFrom outer b xs = .ok (p, rest ++ ')' :: v) →
      ∃ w, xs = (w ++ ']' :: rest) ++ ')' :: v := fun h =>
    exists_append_of_suffix (close_suffix_of_readBracketFrom h)
  generalize hxs : cs ++ ')' :: v = xs at h
  fun_induction readBracketFrom outer b xs generalizing cs with
  | case1 => cases h
  | case2 outer b xs q xs' hq ih =>
    obtain ⟨cs, rfl, rfl⟩ := exists_cons_of_append_close hxs (by decide)
    obtain ⟨w, rfl⟩ := hleft h
    rw [readBracketFrom_posix (readPosix?_cut hq)]
    exact ih rfl h
  | case3 outer b xs hq ih =>
    obtain ⟨cs, rfl, rfl⟩ := exists_cons_of_append_close hxs (by decide)
    have hq' : readPosix? cs = none := by
      cases hcut : readPosix? cs with
      | none => rfl
      | some r =>
        rw [readPosix?_append hcut] at hq
        cases hq
    rw [openBracket_close] at h ih
    rw [readBracketFrom_open hq']
    exact ih rfl h
  | case4 b xs =>
    obtain ⟨cs, rfl, rfl⟩ := exists_cons_of_append_close hxs (by decide)
    obtain ⟨rfl, rfl⟩ := eq_of_ok_append h
    rw [readBracketFrom.eq_3]
  | case5 _ xs b' outer ih =>
    obtain ⟨cs, rfl, rfl⟩ := exists_cons_of_append_close hxs (by decide)
    rw [readBracketFrom.eq_4]
    exact ih rfl h
  | case6 outer b xs ih =>
    obtain ⟨cs, rfl, htail⟩ := exists_cons_of_append_close hxs (by decide)
    obtain ⟨cs, rfl, rfl⟩ := exists_cons_of_append_close htail.symm (by decide)
    rw [readBracketFrom.eq_5]
    exact ih rfl h
  | case7 outer b xs ih =>
    obtain ⟨cs, rfl, htail⟩ := exists_cons_of_append_close hxs (by decide)
    obtain ⟨cs, rfl, rfl⟩ := exists_cons_of_append_close htail.symm (by decide)
    rw [readBracketFrom.eq_6]
    exact ih rfl h
  | case8 outer b xs ih =>
    obtain ⟨cs, rfl, htail⟩ := exists_cons_of_append_close hxs (by decide)
    obtain ⟨cs, rfl, rfl⟩ := exists_cons_of_append_close htail.symm (by decide)
    rw [readBracketFrom.eq_7]
    exact ih rfl h
  | case9 outer b c xs h1 h2 h3 h4 h5 q xs' hq ih =>
    obtain ⟨w, rfl⟩ := hleft h
    cases cs with
    | nil =>
      rw [← hxs] at hq
      exact absurd (readRange_suffix hq) (not_append_suffix_tail (List.cons_ne_nil _ _))
    | cons d cs =>
      obtain ⟨rfl, rfl⟩ := List.cons.inj hxs
      have hc : d ∉ ['[', ']'] := by simpa using ⟨h1, h2⟩
      have hop : d ∈ ['&', '-', '~'] → cs.head? ≠ some d := by
        intro hmem hd
        obtain ⟨cs, rfl⟩ := List.head?_eq_some_iff.mp hd
        simp only [List.mem_cons, List.not_mem_nil, or_false] at hmem
        obtain rfl | rfl | rfl := hmem
        · exact h3 _ rfl rfl
        · exact h4 _ rfl rfl
        · exact h5 _ rfl rfl
      have hq' : readRange (d :: cs) = .ok (q, w ++ ']' :: rest) :=
        readRange_cut hq (List.mem_append_right w List.mem_cons_self)
      rw [readBracketFrom_range hc hop hq']
      exact ih rfl h
  | case10 => cases h

theorem readBracket_cut {p : Bracket}
    (h : readBracket (cs ++ ')' :: v) = .ok (p, rest ++ ')' :: v)) :
    readBracket cs = .ok (p, rest) := by
  unfold readBracket at h ⊢
  rw [openBracket_close] at h
  exact readBracketFrom_cut h

/-! ## Groups -/

theorem readName_cut {t : Token} (h : readName (cs ++ ')' :: v) = .ok (t, rest ++ ')' :: v)) :
    readName cs = .ok (t, rest) := by
  unfold readName at h
  simp only at h
  split at h
  · rename_i hdrop
    split at h
    · rename_i hname
      cases h
      obtain ⟨htake, hdrop⟩ := scan_cut hdrop
      rw [htake] at hname
      unfold readName
      simp only [hdrop, htake, if_pos hname]
    · cases h
  · cases h

theorem readGroupFlags_cut {t : Token}
    (h : readGroupFlags (cs ++ ')' :: v) = .ok (t, rest ++ ')' :: v)) :
    readGroupFlags cs = .ok (t, rest) := by
  unfold readGroupFlags at h
  simp only at h
  split at h
  · cases h
  · rename_i c rest' hdrop
    have hleft : rest' = rest ++ ')' :: v := by
      repeat' split at h
      all_goals cases h
      all_goals rfl
    subst hleft
    obtain ⟨htake, hdrop⟩ := scan_cut hdrop
    rw [htake] at h
    unfold readGroupFlags
    simp only [hdrop]
    split at h
    · cases h
    · by_cases hc : (c == ':') = true
      · rw [if_pos hc] at h ⊢
        cases h
        rfl
      · rw [if_neg hc] at h ⊢
        split at h
        · cases h
        · rename_i hbody
          cases h
          rw [if_neg hbody]

theorem readGroup_cut {t : Token} (h : readGroup (cs ++ ')' :: v) = .ok (t, rest ++ ')' :: v)) :
    readGroup cs = .ok (t, rest) := by
  generalize hxs : cs ++ ')' :: v = xs at h
  revert h
  fun_cases readGroup xs with
  | case1 | case2 | case3 | case4 =>
    intro h
    cases h
  | case5 xs =>
    intro h
    obtain ⟨cs₁, rfl, htail⟩ := exists_cons_of_append_close hxs (by decide)
    obtain ⟨cs₂, rfl, htail'⟩ := exists_cons_of_append_close htail.symm (by decide)
    obtain ⟨cs₃, rfl, rfl⟩ := exists_cons_of_append_close htail'.symm (by decide)
    exact readName_cut h
  | case6 xs hequals hbang =>
    intro h
    obtain ⟨cs₁, rfl, htail⟩ := exists_cons_of_append_close hxs (by decide)
    obtain ⟨cs₂, rfl, rfl⟩ := exists_cons_of_append_close htail.symm (by decide)
    have hname := readName_cut h
    obtain ⟨c, cs, rfl⟩ : ∃ c cs, cs₂ = c :: cs := by
      refine List.exists_cons_of_ne_nil ?_
      rintro rfl
      cases hname
    have hc : c ≠ '=' ∧ c ≠ '!' := by simpa using And.intro hequals hbang
    simpa [readGroup, hc] using hname
  | case7 xs hequals hbang _ _ hname hangle =>
    intro h
    obtain ⟨cs₁, rfl, rfl⟩ := exists_cons_of_append_close hxs (by decide)
    have hflags := readGroupFlags_cut h
    obtain ⟨c, cs, rfl⟩ : ∃ c cs, cs₁ = c :: cs := by
      refine List.exists_cons_of_ne_nil ?_
      rintro rfl
      cases hflags
    obtain ⟨hc, hjoined⟩ := flags_head hequals hbang hname hangle
    have hangle' : c = 'P' → cs.head? ≠ some '<' := by
      intro hP hd
      obtain ⟨cs, rfl⟩ := List.head?_eq_some_iff.mp hd
      exact hjoined hP rfl
    rw [readGroup_flags hc hangle']
    exact hflags
  | case8 xs _ _ _ _ _ _ hmark =>
    intro h
    have hplain : cs.head? ≠ some '?' := by
      intro hd
      obtain ⟨cs', rfl⟩ := List.head?_eq_some_iff.mp hd
      exact hmark _ hxs.symm
    rw [← hxs] at h
    obtain ⟨rfl, rfl⟩ := eq_of_ok_append h
    exact readGroup_plain hplain

/-! ## Repetitions -/

theorem detached_close : Detached (')' :: v) := detached_cons (by decide)

theorem readCount_close :
    readCount (cs ++ ')' :: v) = ((readCount cs).1, (readCount cs).2 ++ ')' :: v) := by
  have hblank : Text.isBlank ')' = false := by decide
  have hdigit : Char.isDigit ')' = false := by decide
  unfold readCount
  simp only [scan_close hblank, scan_close hdigit]
  split <;> rfl

theorem readRepetition_cut {t : Token}
    (h : readRepetition (cs ++ ')' :: v) = .ok (t, rest ++ ')' :: v)) :
    readRepetition cs = .ok (t, rest) := by
  have hcount : ∀ {xs r : List Char} {n c}, c ≠ ')' → readCount (xs ++ ')' :: v) = (n, c :: r) →
      ∃ r', r = r' ++ ')' :: v ∧ readCount xs = (n, c :: r') := by
    intro xs r n c hc hr
    rw [readCount_close] at hr
    obtain ⟨hn, hr⟩ := Prod.mk.inj hr
    obtain ⟨r', hr', rfl⟩ := exists_cons_of_append_close hr hc
    exact ⟨r', rfl, Prod.ext hn hr'⟩
  unfold readRepetition at h
  split at h
  · rename_i hlo
    obtain ⟨r, rfl, hlo'⟩ := hcount (by decide) hlo
    rw [skipLazy_append detached_close] at h
    obtain ⟨rfl, rfl⟩ := eq_of_ok_append h
    unfold readRepetition
    simp only [hlo']
  · rename_i hlo
    obtain ⟨r, hr, hlo'⟩ := hcount (by decide) hlo
    obtain ⟨r, rfl, rfl⟩ := exists_cons_of_append_close hr.symm (by decide)
    rw [skipLazy_append detached_close] at h
    obtain ⟨rfl, rfl⟩ := eq_of_ok_append h
    unfold readRepetition
    simp only [hlo']
  · rename_i lo xs hbrace hlo
    obtain ⟨xs, rfl, hlo'⟩ := hcount (by decide) hlo
    split at h
    · rename_i hi r hhi
      obtain ⟨r, rfl, hhi'⟩ := hcount (by decide) hhi
      split at h
      · rename_i hle
        rw [skipLazy_append detached_close] at h
        obtain ⟨rfl, rfl⟩ := eq_of_ok_append h
        obtain ⟨d, xs, rfl⟩ : ∃ d xs', xs = d :: xs' := by
          refine List.exists_cons_of_ne_nil ?_
          rintro rfl
          cases hhi'
        have hd : d ≠ '\x7d' := fun hd => hbrace _ (congrArg (· :: (xs ++ ')' :: v)) hd)
        unfold readRepetition
        simp [hlo', hd, hhi', hle]
      · cases h
    · cases h
  · cases h

/-! ## Tokens -/

/-- **A token** that leaves a closing parenthesis is read without it. A brace alone is no token. -/
theorem Token.next_cut {t : Token} (h : Token.next c (cs ++ ')' :: v) = .ok (t, rest ++ ')' :: v))
    (hrest : rest ≠ ['\x7b']) : Token.next c cs = .ok (t, rest) := by
  unfold Token.next at h ⊢
  split at h
  all_goals first
    | exact readGroup_cut h
    | exact readRepetition_cut h
    | (split at h
       · rename_i hr
         cases h
         first
           | simp only [readBracket_cut hr]
           | simp only [readEscape_cut hr hrest]
       · cases h)
    | (obtain ⟨rfl, rfl⟩ := eq_of_ok_append h
       rfl)
    | (rw [skipLazy_append detached_close] at h
       obtain ⟨rfl, rfl⟩ := eq_of_ok_append h
       rfl)

/-- The first of some tokens is read at the start of the text. -/
theorem exists_next_of_tokens {t : Token} {ts : List Token} (h : tokens cs = .ok (t :: ts)) :
    ∃ c ds rest, cs = c :: ds ∧ Token.next c ds = .ok (t, rest) ∧ tokens rest = .ok ts := by
  cases cs with
  | nil =>
    rw [tokens_nil] at h
    cases h
  | cons c ds =>
    obtain ⟨t, rest, ts, hnext, hrest, heq⟩ := tokens_cons_eq_ok_iff.mp h
    obtain ⟨rfl, rfl⟩ := List.cons.inj heq
    exact ⟨c, ds, rest, rfl, hnext, hrest⟩

/-- **The tokens in front of a closing one** are those of the text in front of its parenthesis. -/
theorem tokens_split {ts us : List Token} (h : tokens cs = .ok (ts ++ .close :: us)) :
    ∃ u v, cs = u ++ ')' :: v ∧ tokens u = .ok ts ∧ tokens v = .ok us := by
  induction ts generalizing cs with
  | nil =>
    obtain ⟨c, ds, rest, rfl, hnext, hrest⟩ := exists_next_of_tokens h
    obtain rfl := (eq_of_next hnext).2 rfl
    cases hnext
    exact ⟨[], ds, rfl, tokens_nil, hrest⟩
  | cons t ts ih =>
    obtain ⟨c, ds, rest, rfl, hnext, hrest⟩ := exists_next_of_tokens h
    obtain ⟨u, v, rfl, hu, hv⟩ := ih hrest
    obtain ⟨w, rfl⟩ := exists_append_of_suffix (Token.next_suffix hnext)
    have hbrace : u ≠ ['\x7b'] := by
      rintro rfl
      obtain ⟨_, _, _, hbrace, -⟩ := tokens_cons_eq_ok_iff.mp hu
      cases hbrace
    exact ⟨c :: (w ++ u), v, rfl, tokens_cons (Token.next_cut hnext hbrace) hu, hv⟩

/-! ## Groups -/

namespace Outline

variable {o o' : Outline} {t : Token} {ts : List Token}

/-- Inside other groups a token is taken in as it is alone, unless it closes a group around. -/
theorem Steps.of_inside {base : List Level} (h : (o.inside base).Steps t o') :
    (t = .close ∧ o.outer = []) ∨ ∃ o₁, o.Steps t o₁ ∧ o' = o₁.inside base := by
  cases h with
  | part h => exact .inr ⟨_, .part h, rfl⟩
  | flags f => exact .inr ⟨_, .flags f, rfl⟩
  | opened h => exact .inr ⟨_, .opened h, rfl⟩
  | named h => exact .inr ⟨_, .named h, rfl⟩
  | @closed l outer h =>
    have hstack : o.outer ++ base = l :: outer := h
    cases houter : o.outer with
    | nil => exact .inl ⟨rfl, rfl⟩
    | cons l' outer' =>
      rw [houter, List.cons_append] at hstack
      obtain ⟨rfl, rfl⟩ := List.cons.inj hstack
      exact .inr ⟨_, .closed houter, rfl⟩
  | barred => exact .inr ⟨_, .barred, rfl⟩
  | repeated hrep hparts => exact .inr ⟨_, .repeated hrep hparts, rfl⟩

/-- **What closes the group around** is one of the tokens, and those in front of it are taken in
alone, without a group that is left open. -/
theorem exists_close_of_pushAll {l : Level} {base : List Level}
    (h : (o.inside (l :: base)).pushAll ts = .ok o') (houter : o'.outer.length ≤ base.length) :
    ∃ ts₁ us o₁, ts = ts₁ ++ .close :: us ∧ o.pushAll ts₁ = .ok o₁ ∧ o₁.outer = [] := by
  induction ts generalizing o with
  | nil =>
    cases h
    unfold inside at houter
    simp only [List.length_append, List.length_cons] at houter
    omega
  | cons t ts ih =>
    obtain ⟨o₁, ho₁, h₁⟩ := pushAll_cons_eq_ok_iff.mp h
    rcases ho₁.of_inside with ⟨rfl, hclosed⟩ | ⟨o₂, ho₂, rfl⟩
    · exact ⟨[], ts, o, rfl, rfl, hclosed⟩
    · obtain ⟨ts₁, us, o₃, rfl, ho₃, hclosed⟩ := ih h₁
      exact ⟨t :: ts₁, us, o₃, rfl, pushAll_cons_eq_ok_iff.mpr ⟨o₂, ho₂, ho₃⟩, hclosed⟩

end Outline

/-- **A text that becomes a pattern in a group** is one alone, or it closes the group behind a
pattern. -/
theorem isPattern_or_closes (h : IsPattern (anchored cs)) :
    IsPattern cs ∨ ∃ u v, cs = u ++ ')' :: v ∧ IsPattern u := by
  obtain ⟨tree, htree⟩ := h
  obtain ⟨ts, o, hts, ho, houter, -⟩ := treeOfTokens_of_parse htree
  have hinside : anchoredStart = (Outline.start (baseFlags false)).inside [anchor false] := rfl
  rw [hinside] at ho
  obtain ⟨ts₁, us, o₁, rfl, ho₁, hclosed⟩ := Outline.exists_close_of_pushAll ho
    (Nat.le_of_eq (congrArg List.length houter))
  obtain ⟨u, v, hjoined, hu, -⟩ := tokens_split hts
  have hpattern : IsPattern u :=
    ⟨_, parse_eq_ok_iff.mpr ⟨ts₁, hu, treeOfTokens_eq_ok_iff.mpr ⟨o₁, ho₁, hclosed, rfl⟩⟩⟩
  -- the parenthesis stands in the text or is the one behind it
  rcases List.append_eq_append_iff.mp hjoined with ⟨w, rfl, hw⟩ | ⟨w, rfl, hw⟩
  · cases w with
    | nil => exact .inl (by rwa [List.append_nil] at hpattern)
    | cons c w =>
      obtain ⟨rfl, hw⟩ := List.cons.inj hw
      have hlength := congrArg List.length hw
      cases w with
      | nil => cases hw
      | cons d w => simp at hlength
  · cases w with
    | nil => exact .inl (by rwa [List.append_nil])
    | cons c w =>
      obtain ⟨rfl, rfl⟩ := List.cons.inj hw
      exact .inr ⟨u, w, rfl, hpattern⟩

end

end UsageIndex.Pattern
