import UsageIndex.Pattern.Literal
import UsageIndex.Proofs.Pattern.Meaning

/-!
# The literal text at the start of a pattern

The literal text is read off a pattern without its structure. Two things may take it away from a
match: a repetition of its last character that stands behind another repetition, and a repetition of
the whole group of the pattern, where the text of the pattern closes that group. If neither stands
in a pattern, every match begins with the literal text.

* **`leadHolds`**: nothing takes the literal text away.
* **`Demands`**: what parts consume has a property. **`Led`**: so has what has been read of a group.
* **`pushAll_led`**: a group that is led stays so, whatever is read, up to the token that closes it.
* **`leadingLiteral_prefix_of_occurs`**: every match begins with the literal text if that holds.
-/

namespace UsageIndex.Pattern

/-! ## Tokens -/

theorem eq_openCapture_of_readName {cs rest : List Char} {t : Token}
    (h : readName cs = .ok (t, rest)) : ∃ name, t = .openCapture name := by
  unfold readName at h
  simp only at h
  split at h
  · split at h <;> cases h
    exact ⟨_, rfl⟩
  · cases h

theorem eq_group_of_readGroupFlags {cs rest : List Char} {t : Token}
    (h : readGroupFlags cs = .ok (t, rest)) : ∃ f, t = .openGroup f ∨ t = .setFlags f := by
  unfold readGroupFlags at h
  simp only at h
  split at h
  · cases h
  · split at h
    · cases h
    · split at h
      · cases h
        exact ⟨_, .inl rfl⟩
      · split at h <;> cases h
        exact ⟨_, .inr rfl⟩

/-- What follows an opening parenthesis opens a group or changes flags. -/
theorem readGroup_cases {cs rest : List Char} {t : Token} (h : readGroup cs = .ok (t, rest)) :
    (∃ name, t = .openCapture name) ∨ ∃ f, t = .openGroup f ∨ t = .setFlags f := by
  unfold readGroup at h
  split at h
  all_goals first
    | (cases h; done)
    | exact .inl (eq_openCapture_of_readName h)
    | exact .inr (eq_group_of_readGroupFlags h)
    | (cases h
       exact .inl ⟨_, rfl⟩)

/-- The tokens that divide and close groups are written with one character each. -/
theorem eq_of_next {c : Char} {cs rest : List Char} {t : Token}
    (h : Token.next c cs = .ok (t, rest)) : (t = .bar → c = '|') ∧ (t = .close → c = ')') := by
  unfold Token.next at h
  split at h
  · rcases readGroup_cases h with ⟨_, rfl⟩ | ⟨_, rfl | rfl⟩ <;> exact ⟨nofun, nofun⟩
  · exact ⟨by cases h; nofun, fun _ => rfl⟩
  · exact ⟨fun _ => rfl, by cases h; nofun⟩
  · split at h <;> cases h
    exact ⟨nofun, nofun⟩
  · cases h
    exact ⟨nofun, nofun⟩
  · cases h
    exact ⟨nofun, nofun⟩
  · cases h
    exact ⟨nofun, nofun⟩
  · unfold readRepetition at h
    repeat' split at h
    all_goals first
      | (cases h; done)
      | (cases h
         exact ⟨nofun, nofun⟩)
  · split at h
    · rename_i e r he
      cases e <;> cases h <;> exact ⟨nofun, nofun⟩
    · cases h
  all_goals
    cases h
    exact ⟨nofun, nofun⟩

/-- A text without bars is read as tokens without bars. -/
theorem bar_not_mem_tokens {cs : List Char} {ts : List Token} (hcs : '|' ∉ cs)
    (h : tokens cs = .ok ts) : Token.bar ∉ ts := by
  induction cs using tokens.induct generalizing ts with
  | case1 =>
    rw [tokens_nil] at h
    cases h
    exact List.not_mem_nil
  | case2 c cs t rest hnext us hrest ih =>
    rw [tokens_cons hnext hrest] at h
    cases h
    rw [List.mem_cons, not_or] at hcs ⊢
    refine ⟨?_, ih (fun hbar => hcs.2 ((Token.next_suffix hnext).subset hbar)) hrest⟩
    rintro rfl
    exact hcs.1 ((eq_of_next hnext).1 rfl).symm
  | case3 c cs t rest hnext f hrest =>
    obtain ⟨t', rest', us, hnext', hus, -⟩ := tokens_cons_eq_ok_iff.mp h
    rw [hnext] at hnext'
    cases hnext'
    rw [hrest] at hus
    cases hus
  | case4 c cs f hnext =>
    obtain ⟨t, rest, us, hnext', -, -⟩ := tokens_cons_eq_ok_iff.mp h
    rw [hnext] at hnext'
    cases hnext'

/-- The literal text stands at the start of the tokens. -/
theorem tokens_literalRun {cs rest : List Char} {ts : List Token}
    (h : tokens (cs ++ rest) = .ok ts) :
    ∃ us, ts = (literalRun cs).map Token.char ++ us := by
  fun_induction literalRun cs generalizing ts with
  | case1 | case3 | case4 | case5 => exact ⟨ts, rfl⟩
  | case2 c hc d ds hd ih =>
    rw [Bool.and_eq_true, isStop_eq_isMeta] at hd
    rw [eq_of_beq hc] at h
    obtain ⟨t, r, us, hnext, hus, rfl⟩ := tokens_cons_eq_ok_iff.mp h
    rw [List.append_eq, List.cons_append, next_escaped hd.1] at hnext
    cases hnext
    obtain ⟨vs, rfl⟩ := ih hus
    exact ⟨vs, rfl⟩
  | case6 c cs hc hcs ih =>
    rw [Bool.or_eq_true, not_or, Bool.not_eq_true, isStop_eq_isMeta] at hcs
    obtain ⟨t, r, us, hnext, hus, rfl⟩ := tokens_cons_eq_ok_iff.mp h
    rw [List.append_eq, next_char hcs.1] at hnext
    cases hnext
    obtain ⟨vs, rfl⟩ := ih hus
    exact ⟨vs, rfl⟩

/-! ## What takes the literal text away -/

/-- Each repetition at the head of some tokens asks for a copy. -/
def keepsHead : List Token → Bool
  | .repetition lo _ :: ts => decide (1 ≤ lo) && keepsHead ts
  | _ => true

/-- Whether a token opens a group. -/
def Token.opens : Token → Bool
  | openCapture _ => true
  | openGroup _ => true
  | _ => false

/-- The tokens behind the one that closes a group, `n` groups inside of which are open. -/
def behindClose : Nat → List Token → List Token
  | _, [] => []
  | 0, .close :: ts => ts
  | n + 1, .close :: ts => behindClose n ts
  | n, t :: ts => behindClose (if t.opens then n + 1 else n) ts

/-- Nothing takes the literal text of a pattern away: neither a repetition behind the text nor one
behind the group of the pattern, where the pattern closes it, does without a copy. -/
def leadHolds (cs : List Char) : Bool :=
  (leadingLiteral cs).isEmpty ||
    match tokens (cs ++ [')', '$']) with
    | .ok ts =>
      let us := ts.drop (leadingLiteral cs).length
      keepsHead us && keepsHead (behindClose 0 us)
    | .error _ => true

theorem behindClose_cons {t : Token} (h : t ≠ .close) (n : Nat) (ts : List Token) :
    behindClose n (t :: ts) = behindClose (if t.opens then n + 1 else n) ts := by
  cases n <;> cases t <;> first | rfl | exact absurd rfl h

theorem behindClose_suffix (n : Nat) (ts : List Token) : behindClose n ts <:+ ts := by
  fun_induction behindClose n ts with
  | case1 => exact List.suffix_refl _
  | case2 => exact List.suffix_cons _ _
  | case3 _ _ ih => exact ih.trans (List.suffix_cons _ _)
  | case4 _ _ _ _ _ ih => exact ih.trans (List.suffix_cons _ _)

theorem keepsHead_of_leadHolds {cs : List Char} {us : List Token} (h : leadHolds cs = true)
    (hne : leadingLiteral cs ≠ [])
    (hts : tokens (cs ++ [')', '$']) = .ok ((leadingLiteral cs).map Token.char ++ us)) :
    keepsHead us = true ∧ keepsHead (behindClose 0 us) = true := by
  have hdrop : ((leadingLiteral cs).map Token.char ++ us).drop (leadingLiteral cs).length = us :=
    List.drop_left' (List.length_map _)
  unfold leadHolds at h
  simpa [hts, hne, hdrop] using h

/-! ## What parts demand -/

/-- Whatever parts consume where `b` stands before it, nearest first, has the property. -/
def Demands (P : List Char → List Char → Prop) (parts : List Tree) : Prop :=
  ∀ b w a, (Tree.exprOfParts parts).Spans b w a → P b w

section

variable {P : List Char → List Char → Prop} (hP : ∀ {b w} v, P b w → P b (w ++ v))
include hP

/-- What parts demand is met whatever follows them. -/
theorem Demands.append {ps : List Tree} (h : Demands P ps) (qs : List Tree) :
    Demands P (ps ++ qs) := by
  intro b w a hw
  obtain ⟨u, v, rfl, hu, -⟩ := spans_exprOfParts_append.mp hw
  exact hP v (h b u _ hu)

/-- A repetition that asks for a copy demands what the copy does. -/
theorem Demands.rep_last {ps : List Tree} {t : Tree} (h : Demands P (ps ++ [t])) {lo : Nat}
    (hlo : 1 ≤ lo) (hi : Option Nat) : Demands P (ps ++ [.rep t lo hi]) := by
  intro b w a hw
  obtain ⟨u, v, rfl, hu, hv⟩ := spans_exprOfParts_append.mp hw
  rw [← spans_ofParts] at hv
  have hrep : (Expr.rep t.expr lo hi).Spans (u.reverse ++ b) v a := by
    rwa [Tree.ofParts, Tree.expr] at hv
  cases hrep with
  | repDone => exact absurd hlo (by decide)
  | @repMore _ _ _ _ x y _ _ hx _ =>
    have hone : (Tree.exprOfParts [t]).Spans (u.reverse ++ b) x (y ++ a) :=
      (spans_ofParts [t]).mp hx
    have hux : (Tree.exprOfParts (ps ++ [t])).Spans b (u ++ x) (y ++ a) :=
      spans_exprOfParts_append.mpr ⟨u, x, rfl, by rwa [← List.append_assoc], hone⟩
    rw [← List.append_assoc]
    exact hP y (h b _ _ hux)

end

/-! ## What tokens do -/

/-- The groups that are open, the innermost first, and the whole pattern. -/
def Outline.stack (o : Outline) : List Level := o.level :: o.outer

/-- What a token does to an outline: it adds a part, opens, closes or divides a group, or repeats
the last part. -/
inductive Outline.Takes (o : Outline) : Token → Outline → Prop where
  | part {t : Token} {l : Level} (p : Tree) : t ≠ .close → t.opens = false →
      l.alternatives = o.level.alternatives → l.parts = p :: o.level.parts →
      Takes o t { o with level := l }
  | opened {t : Token} (flags : Flags) (captures : Bool) (names : List (List Char)) :
      t ≠ .close → t.opens = true →
      Takes o t ⟨Level.start flags captures, o.level :: o.outer, names⟩
  | closed {l : Level} {outer : List Level} : o.outer = l :: outer → Takes o .close
      { o with level := l.add (.group o.level.captures o.level.tree), outer := outer }
  | barred : Takes o .bar { o with level := o.level.bar }
  | repeated {lo : Nat} {hi : Option Nat} {p : Tree} {ps : List Tree} : o.level.parts = p :: ps →
      Takes o (.repetition lo hi) { o with level := { o.level with parts := .rep p lo hi :: ps } }

theorem takes_of_steps {o o' : Outline} {t : Token} (h : o.Steps t o') : o.Takes t o' := by
  cases h with
  | part h =>
    have hother : t ≠ .close ∧ t.opens = false := by
      cases t <;> cases h <;> exact ⟨nofun, rfl⟩
    exact .part _ hother.1 hother.2 rfl rfl
  | flags => exact .part _ nofun rfl rfl rfl
  | opened h =>
    have hother : t ≠ .close ∧ t.opens = true := by
      cases t with
      | openCapture | openGroup => exact ⟨nofun, rfl⟩
      | _ => cases h
    exact .opened _ _ _ hother.1 hother.2
  | named => exact .opened _ _ _ nofun rfl
  | closed h => exact .closed h
  | barred => exact .barred
  | repeated _ hparts => exact .repeated hparts

/-! ## Groups that are led -/

/-- What has been read of a group is one alternative, whose parts demand something. -/
structure Led (P : List Char → List Char → Prop) (l : Level) : Prop where
  single : l.alternatives = []
  demands : Demands P l.parts.reverse

/-- Already the parts before the last one demand it. -/
def Held (P : List Char → List Char → Prop) (l : Level) : Prop := Demands P l.parts.tail.reverse

theorem Led.tree {P : List Char → List Char → Prop} {l : Level} (h : Led P l) {b w a : List Char}
    (hw : l.tree.expr.Spans b w a) : P b w := by
  have htree : l.tree = Tree.ofParts l.parts.reverse := by
    unfold Level.tree Level.lastAlternative
    rw [h.single]
    rfl
  rw [htree, spans_ofParts] at hw
  exact h.demands b w a hw

/-- A group that is led is open, with the groups `inner` inside of it, and the repetitions at the
head of the tokens `ts` do not take away what it demands. -/
structure OpenLed (P : List Char → List Char → Prop) (base : List Level) (o : Outline)
    (ts : List Token) (inner : List Level) (l : Level) : Prop where
  stack : o.stack = inner ++ l :: base
  led : Led P l
  held : inner = [] → Held P l ∨ keepsHead ts = true

section

variable {P : List Char → List Char → Prop} (hP : ∀ {b w} v, P b w → P b (w ++ v))
include hP

/-- One more part behind those of a group that is led. -/
theorem Led.part {l l' : Level} (h : Led P l) {p : Tree} (hal : l'.alternatives = l.alternatives)
    (hparts : l'.parts = p :: l.parts) : Led P l' ∧ Held P l' := by
  have hheld : Held P l' := by
    unfold Held
    rw [hparts]
    exact h.demands
  refine ⟨⟨hal.trans h.single, ?_⟩, hheld⟩
  rw [hparts, List.reverse_cons]
  exact h.demands.append hP [p]

/-- A repetition of the last part of a group that is led. -/
theorem Led.repeated {l : Level} (h : Led P l) {p : Tree} {ps : List Tree}
    (hparts : l.parts = p :: ps) {lo : Nat} {hi : Option Nat} (hlo : Held P l ∨ 1 ≤ lo) :
    Led P { l with parts := .rep p lo hi :: ps } := by
  refine ⟨h.single, ?_⟩
  rw [List.reverse_cons]
  rcases hlo with hheld | hlo
  · unfold Held at hheld
    rw [hparts] at hheld
    exact hheld.append hP _
  · have hlast := h.demands
    rw [hparts, List.reverse_cons] at hlast
    exact hlast.rep_last hP hlo hi

variable {base inner : List Level} {o o' : Outline} {l : Level} {t : Token} {ts : List Token}

/-- A token that stands in the group itself, and does not close it. -/
theorem push_led_of_nil (h : o.Steps t o') (hbar : t ≠ .bar) (hclose : t ≠ .close)
    (hopen : OpenLed P base o (t :: ts) [] l) : ∃ inner' l', OpenLed P base o' ts inner' l' ∧
      behindClose 0 (t :: ts) = behindClose inner'.length ts := by
  obtain ⟨hstack, hled, hheld⟩ := hopen
  obtain ⟨rfl, hout⟩ := List.cons.inj hstack
  cases takes_of_steps h with
  | @part _ l' p _ hopens hal hparts =>
    obtain ⟨hled', hheld'⟩ := hled.part hP hal hparts
    refine ⟨[], l', ⟨congrArg _ hout, hled', fun _ => .inl hheld'⟩, ?_⟩
    rw [behindClose_cons hclose, hopens]
    rfl
  | opened flags captures names _ hopens =>
    refine ⟨[Level.start flags captures], o.level, ⟨congrArg _ (congrArg _ hout), hled, nofun⟩, ?_⟩
    rw [behindClose_cons hclose, hopens]
    rfl
  | closed => exact absurd rfl hclose
  | barred => exact absurd rfl hbar
  | @repeated lo hi p ps hparts =>
    have hlo : Held P o.level ∨ 1 ≤ lo ∧ keepsHead ts = true :=
      (hheld rfl).imp_right fun hkeeps => by simpa [keepsHead] using hkeeps
    refine ⟨[], _, ⟨congrArg _ hout, hled.repeated hP hparts (hlo.imp_right And.left), fun _ => ?_⟩,
      rfl⟩
    refine hlo.imp (fun hheld' => ?_) And.right
    unfold Held at hheld' ⊢
    rwa [hparts] at hheld'

/-- A token that stands in a group inside. -/
theorem push_led_of_cons (h : o.Steps t o') (hbar : t ≠ .bar) {i : Level}
    (hopen : OpenLed P base o (t :: ts) (i :: inner) l) :
    ∃ inner' l', OpenLed P base o' ts inner' l' ∧
      behindClose (i :: inner).length (t :: ts) = behindClose inner'.length ts := by
  obtain ⟨hstack, hled, -⟩ := hopen
  obtain ⟨rfl, hout⟩ := List.cons.inj hstack
  cases takes_of_steps h with
  | @part _ l' _ hclose hopens =>
    refine ⟨l' :: inner, l, ⟨congrArg _ hout, hled, nofun⟩, ?_⟩
    rw [behindClose_cons hclose, hopens]
    rfl
  | opened flags captures names hclose hopens =>
    refine ⟨Level.start flags captures :: o.level :: inner, l,
      ⟨congrArg _ (congrArg _ hout), hled, nofun⟩, ?_⟩
    rw [behindClose_cons hclose, hopens]
    rfl
  | @closed l₁ outer hl =>
    rw [hl] at hout
    cases inner with
    | nil =>
      -- the group inside becomes a part
      obtain ⟨rfl, rfl⟩ := List.cons.inj hout
      have hadd : Led P (l₁.add (.group o.level.captures o.level.tree)) ∧
          Held P (l₁.add (.group o.level.captures o.level.tree)) := hled.part hP rfl rfl
      exact ⟨[], _, ⟨rfl, hadd.1, fun _ => .inl hadd.2⟩, rfl⟩
    | cons j js =>
      obtain ⟨rfl, rfl⟩ := List.cons.inj hout
      exact ⟨_ :: js, l, ⟨rfl, hled, nofun⟩, rfl⟩
  | barred => exact absurd rfl hbar
  | repeated => exact ⟨_ :: inner, l, ⟨congrArg _ hout, hled, nofun⟩, rfl⟩

/-- **A group that is led stays so.** It is still open when all tokens have been taken in, or one of
them has closed it as such a group, and those behind have been taken in after that. -/
theorem pushAll_led (h : o.pushAll ts = .ok o') (hbar : Token.bar ∉ ts)
    (hopen : OpenLed P base o ts inner l) :
    (∃ inner' l', o'.stack = inner' ++ l' :: base ∧ Led P l') ∨
      ∃ l' outerLevel outer names, base = outerLevel :: outer ∧ Led P l' ∧
        (⟨outerLevel.add (.group l'.captures l'.tree), outer, names⟩ : Outline).pushAll
          (behindClose inner.length ts) = .ok o' := by
  induction ts generalizing o inner l with
  | nil =>
    cases h
    exact .inl ⟨inner, l, hopen.stack, hopen.led⟩
  | cons t ts ih =>
    rw [List.mem_cons, not_or] at hbar
    obtain ⟨o₁, ho₁, h₁⟩ := Outline.pushAll_cons_eq_ok_iff.mp h
    by_cases hcloses : inner = [] ∧ t = .close
    · obtain ⟨rfl, rfl⟩ := hcloses
      obtain ⟨rfl, hout⟩ := List.cons.inj hopen.stack
      cases takes_of_steps ho₁ with
      | part _ hclose => exact absurd rfl hclose
      | opened _ _ _ hclose => exact absurd rfl hclose
      | closed hl => exact .inr ⟨o.level, _, _, o.names, hout.symm.trans hl, hopen.led, h₁⟩
    · obtain ⟨inner', l', hopen', hbehind⟩ : ∃ inner' l', OpenLed P base o₁ ts inner' l' ∧
          behindClose inner.length (t :: ts) = behindClose inner'.length ts := by
        cases inner with
        | nil =>
          exact push_led_of_nil hP ho₁ (Ne.symm hbar.1) (fun ht => hcloses ⟨rfl, ht⟩) hopen
        | cons i inner => exact push_led_of_cons hP ho₁ (Ne.symm hbar.1) hopen
      rw [hbehind]
      exact ih h₁ hbar.2 hopen'

end

/-! ## Whole patterns -/

theorem adds_chars (cs : List Char) :
    Adds (cs.map Token.char) (cs.map fun c => .one (.single c) 0) := by
  induction cs with
  | nil => exact .nil
  | cons c cs ih => exact (adds_one (push_char c)).1.append ih

theorem consume_chars (cs : List Char) :
    Consume (cs.map fun c => .one (.single c) 0) (· = cs) := by
  induction cs with
  | nil => exact .nil
  | cons c cs ih =>
    intro b w a
    exact ((Consume.one (.single c) 0).append ih b w a).trans (by simp [Joins])

/-- What has been read of an anchored pattern right behind the start of its group. -/
def anchoredStart : Outline :=
  ((Outline.start (baseFlags false)).add (.edge .textStart)).openGroup (baseFlags false) false

/-- The tree of a pattern between the ends of the text, by the tokens of the pattern. -/
theorem treeOfTokens_of_parse {cs : List Char} {tree : Tree}
    (h : parse (baseFlags false) (anchored cs) = .ok tree) :
    ∃ ts o, tokens (cs ++ [')', '$']) = .ok ts ∧ anchoredStart.pushAll ts = .ok o ∧
      o.outer = [] ∧ o.level.tree = tree := by
  have hstart : (Outline.start (baseFlags false)).pushAll [.caret, .openGroup FlagChange.none] =
      .ok anchoredStart := rfl
  obtain ⟨ts, hts, htree⟩ := parse_eq_ok_iff.mp h
  obtain ⟨_, _, _, hcaret, hts, rfl⟩ := tokens_cons_eq_ok_iff.mp hts
  cases hcaret
  obtain ⟨_, _, us, hopen, hus, rfl⟩ := tokens_cons_eq_ok_iff.mp hts
  cases hopen
  obtain ⟨o, ho, houter, htree⟩ := treeOfTokens_eq_ok_iff.mp htree
  exact ⟨us, o, hus, (pushAll_append hstart us).symm.trans ho, houter, htree⟩

section

variable {lead : List Char} {us : List Token} {o : Outline}
  (houter : o.outer = []) (hbar : Token.bar ∉ us) (hhead : keepsHead us = true)
include houter hbar hhead

/-- The group of a pattern demands the literal text at its start, and is closed before the end. -/
theorem exists_group_led {b : Bool}
    (h : (anchoredStart.extend (lead.map fun c => .one (.single c) 0) b).pushAll us = .ok o) :
    ∃ l names, Led (fun _ w => lead <+: w) l ∧
      (⟨(anchor false).add (.group l.captures l.tree), [], names⟩ : Outline).pushAll
        (behindClose 0 us) = .ok o := by
  have hparts :
      (anchoredStart.extend (lead.map fun c => .one (.single c) 0) b).level.parts.reverse =
        lead.map fun c => .one (.single c) 0 :=
    (congrArg _ (List.append_nil _)).trans (List.reverse_reverse _)
  have hopen : OpenLed (fun _ w => lead <+: w) [anchor false]
      (anchoredStart.extend (lead.map fun c => .one (.single c) 0) b) us []
      (anchoredStart.extend (lead.map fun c => .one (.single c) 0) b).level := by
    refine ⟨rfl, ⟨rfl, fun b' w a hw => ?_⟩, fun _ => .inr hhead⟩
    rw [hparts, consume_chars] at hw
    exact hw.symm ▸ List.prefix_refl lead
  rcases pushAll_led (fun v hw => hw.trans (List.prefix_append _ v)) h hbar hopen with
    ⟨inner, l, hstack, -⟩ | ⟨l, outerLevel, outer, names, hbase, hled, hrest⟩
  · have hlength := congrArg List.length hstack
    simp [Outline.stack, houter] at hlength
  · cases hbase
    exact ⟨l, names, hled, hrest⟩

/-- Where the group demands the literal text, the whole pattern demands it at the start of the
text. -/
theorem led_of_group_led {l : Level} {names : List (List Char)}
    (hled : Led (fun _ w => lead <+: w) l)
    (h : (⟨(anchor false).add (.group l.captures l.tree), [], names⟩ : Outline).pushAll us =
      .ok o) :
    Led (fun b w => b = [] ∧ lead <+: w) o.level := by
  have hopen : OpenLed (fun b w => b = [] ∧ lead <+: w) []
      ⟨(anchor false).add (.group l.captures l.tree), [], names⟩ us []
      ((anchor false).add (.group l.captures l.tree)) := by
    refine ⟨rfl, ⟨rfl, fun b w a hw => ?_⟩, fun _ => .inr hhead⟩
    have hparts : ((anchor false).add (.group l.captures l.tree)).parts.reverse =
        [.edge .textStart, .group l.captures l.tree] := rfl
    rw [hparts] at hw
    simp only [Tree.exprOfParts, Tree.expr, Expr.spans_andThen, Expr.spans_edge, Expr.spans_empty,
      Assertion.holds, Option.isNone_iff_eq_none, List.head?_eq_none_iff] at hw
    obtain ⟨_, _, rfl, ⟨rfl, hb⟩, u, _, rfl, hu, rfl⟩ := hw
    rw [List.nil_append, List.append_nil]
    exact ⟨hb, hled.tree hu⟩
  rcases pushAll_led (fun v hw => hw.imp_right fun hw => hw.trans (List.prefix_append _ v)) h hbar
    hopen with ⟨inner, l', hstack, hled'⟩ | ⟨_, _, _, _, hbase, -⟩
  · unfold Outline.stack at hstack
    rw [houter] at hstack
    cases inner with
    | nil =>
      cases hstack
      exact hled'
    | cons i inner =>
      have hlength := congrArg List.length hstack
      simp at hlength
  · cases hbase

end

/-- **Every match begins with the literal text**, if nothing in the pattern takes it away. -/
theorem leadingLiteral_prefix_of_occurs {cs : List Char} {e : Expr} {t : List Char}
    (h : compile (baseFlags false) (anchored cs) = .ok e) (hlead : leadHolds cs = true)
    (ht : e.Occurs t) : leadingLiteral cs <+: t := by
  by_cases hnil : leadingLiteral cs = []
  · rw [hnil]
    exact List.nil_prefix
  have hcs : '|' ∉ cs := fun hbar => hnil (if_pos hbar)
  have hrun : leadingLiteral cs = literalRun cs := if_neg hcs
  obtain ⟨tree, hparse, -, rfl⟩ := compile_eq_ok_iff.mp h
  obtain ⟨ts, o, hts, ho, houter, rfl⟩ := treeOfTokens_of_parse hparse
  have hbar : Token.bar ∉ ts := bar_not_mem_tokens (by simpa using hcs) hts
  obtain ⟨us, rfl⟩ := tokens_literalRun hts
  rw [List.mem_append, not_or] at hbar
  rw [← hrun] at ho hts
  obtain ⟨hhead, hbehind⟩ := keepsHead_of_leadHolds hlead hnil hts
  obtain ⟨b, hb⟩ := adds_chars (leadingLiteral cs) anchoredStart rfl
  rw [pushAll_append hb] at ho
  obtain ⟨l, names, hgroup, hrest⟩ := exists_group_led houter hbar.2 hhead ho
  have hbar' : Token.bar ∉ behindClose 0 us :=
    fun hmem => hbar.2 ((behindClose_suffix 0 us).subset hmem)
  have hwhole := led_of_group_led houter hbar' hbehind hgroup hrest
  obtain ⟨v, u, a, rfl, hu⟩ := ht
  obtain ⟨hv, hprefix⟩ := hwhole.tree hu
  rw [List.reverse_eq_nil_iff.mp hv, List.nil_append]
  exact hprefix.trans (List.prefix_append u a)

-- a second repetition, and a repetition of the group of the pattern
example : leadHolds ['a', '+', '*', 'b'] = false := by decide +kernel
example : leadHolds ['a', ')', '*', '(', '?', ':', 'b'] = false := by decide +kernel

end UsageIndex.Pattern
