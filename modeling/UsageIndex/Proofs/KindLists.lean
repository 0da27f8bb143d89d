import Mathlib.Data.List.DropRight
import Mathlib.Data.List.Forall2
import UsageIndex.Proofs.Postings
import UsageIndex.Usage.Mask

/-!
# Lists of kinds

A mask is written as the names of its kinds with commas between them. Blanks around a name and
pieces without a name make no difference, and neither does it how often or in what order the names
stand. The word `all` stands for every kind; it does not excuse a name behind it that is none.

* **`Text.trim_eq_iff`**: what is left of a text without the blanks at its ends.
* **`UsageMask.parts_eq_iff`**: the parts of a text, by how the text is put together from them.
  **`UsageMask.parts_intercalate`**: texts with commas between them have the parts of each.
* **`UsageMask.exists_addParts_iff`**, **`UsageMask.contains_of_addParts`**: which parts can be
  added to a mask, and which kinds the mask then has.
* **`UsageMask.parse_reads_lists`**: which texts have a mask, and which one.
-/

namespace UsageIndex

/-! ## Blanks -/

namespace Text

/-- A text of blanks. -/
def Blank (cs : List Char) : Prop := ∀ c ∈ cs, isBlank c = true

/-- No blank stands at either end of a text. -/
def Trimmed (cs : List Char) : Prop :=
  (∀ c ∈ cs.head?, isBlank c = false) ∧ ∀ c ∈ cs.getLast?, isBlank c = false

variable {a b cs p : List Char}

theorem Blank.append (ha : Blank a) (hb : Blank b) : Blank (a ++ b) := fun c hc =>
  (List.mem_append.mp hc).elim (ha c) (hb c)

theorem Blank.notMem_comma (ha : Blank a) : ',' ∉ a := fun h =>
  absurd (ha ',' h) (by decide)

theorem trim_pad_trimmed (ha : Blank a) (hb : Blank b) (hp : Trimmed p) :
    trim (a ++ p ++ b) = p := by
  have hfront : (a ++ p ++ b).dropWhile isBlank = (p ++ b).dropWhile isBlank := by
    rw [List.append_assoc, List.dropWhile_append_of_pos ha]
  unfold trim
  rw [hfront]
  cases p with
  | nil =>
    rw [List.nil_append, List.dropWhile_eq_nil_iff.mpr hb]
    rfl
  | cons c p =>
    have hc : ¬ isBlank c = true := Bool.not_eq_true _ ▸ hp.1 c rfl
    have hrev : Blank b.reverse := fun d hd => hb d (List.mem_reverse.mp hd)
    rw [List.cons_append, List.dropWhile_cons_of_neg hc, ← List.cons_append, List.reverse_append,
      List.dropWhile_append_of_pos hrev]
    refine List.rdropWhile_eq_self_iff.mpr fun hne => ?_
    rw [hp.2 _ (List.getLast?_eq_some_getLast hne)]
    exact Bool.false_ne_true

theorem trimmed_trim (cs : List Char) : Trimmed (trim cs) := by
  have htrim : trim cs = (cs.dropWhile isBlank).rdropWhile isBlank := rfl
  rw [htrim]
  constructor
  · intro c hc
    obtain ⟨rest, hrest⟩ := List.rdropWhile_prefix isBlank (cs.dropWhile isBlank)
    have hhead : (cs.dropWhile isBlank).head? = some c := by
      rw [← hrest, List.head?_append_of_ne_nil]
      · exact hc
      · rintro hnil
        rw [hnil] at hc
        cases hc
    have hnot := List.head?_dropWhile_not isBlank cs
    rw [hhead] at hnot
    simpa using hnot
  · intro c hc
    obtain ⟨hne, hlast⟩ := List.mem_getLast?_eq_getLast hc
    rw [hlast]
    simpa using List.rdropWhile_last_not isBlank _ hne

/-- **Trimming** leaves the text between the blanks at the ends. -/
theorem trim_eq_iff : trim cs = p ↔ Trimmed p ∧ ∃ a b, Blank a ∧ Blank b ∧ cs = a ++ p ++ b := by
  constructor
  · rintro rfl
    refine ⟨trimmed_trim cs, cs.takeWhile isBlank, (cs.dropWhile isBlank).rtakeWhile isBlank,
      fun c => List.mem_takeWhile_imp, fun c => List.mem_rtakeWhile_imp, ?_⟩
    have htrim : trim cs = (cs.dropWhile isBlank).rdropWhile isBlank := rfl
    rw [htrim, List.append_assoc, List.rdropWhile_append_rtakeWhile,
      List.takeWhile_append_dropWhile]
  · rintro ⟨hp, a, b, ha, hb, rfl⟩
    exact trim_pad_trimmed ha hb hp

/-- Blanks around a text are cut off. -/
theorem trim_pad (ha : Blank a) (hb : Blank b) (cs : List Char) :
    trim (a ++ cs ++ b) = trim cs := by
  obtain ⟨hp, a', b', ha', hb', hcs⟩ := trim_eq_iff.mp (rfl : trim cs = trim cs)
  refine trim_eq_iff.mpr ⟨hp, a ++ a', b' ++ b, ha.append ha', hb'.append hb, ?_⟩
  conv_lhs => rw [hcs]
  simp only [List.append_assoc]

theorem trim_eq_nil_iff : trim cs = [] ↔ Blank cs := by
  rw [trim_eq_iff]
  constructor
  · rintro ⟨-, a, b, ha, hb, rfl⟩
    rw [List.append_nil]
    exact ha.append hb
  · exact fun h => ⟨⟨nofun, nofun⟩, cs, [], h, nofun, by simp⟩

theorem not_mem_of_mem_splitOn {sep : Char} {piece : List Char} (h : piece ∈ cs.splitOn sep) :
    sep ∉ piece := by
  induction cs generalizing piece with
  | nil =>
    rw [List.splitOn_nil, List.mem_singleton] at h
    rw [h]
    exact List.not_mem_nil
  | cons c cs ih =>
    rw [List.splitOn_cons_eq_if_modifyHead] at h
    by_cases hc : c = sep
    · rw [if_pos (by simp [hc]), List.mem_cons] at h
      rcases h with rfl | h
      · exact List.not_mem_nil
      · exact ih h
    · rw [if_neg (by simp [hc])] at h
      obtain ⟨q, qs, hqs⟩ := List.exists_cons_of_ne_nil (List.splitOn_ne_nil sep cs)
      rw [hqs, List.modifyHead_cons, List.mem_cons] at h
      rcases h with rfl | h
      · have hq : sep ∉ q := ih (by rw [hqs]; exact List.mem_cons_self)
        simp [hq, Ne.symm hc]
      · exact ih (by rw [hqs]; exact List.mem_cons_of_mem q h)

end Text

namespace UsageMask

open UsageIndex.Text (Blank Trimmed)

/-! ## Parts -/

/-- Pieces hold parts: each of them is a part between blanks, or holds no part and is blank. -/
inductive Holds : List (List Char) → List String → Prop where
  | nil : Holds [] []
  | blank {piece : List Char} {pieces : List (List Char)} {ps : List String} :
    Blank piece → Holds pieces ps → Holds (piece :: pieces) ps
  | part {a p b : List Char} {pieces : List (List Char)} {ps : List String} :
    Blank a → Blank b → Trimmed p → p ≠ [] → Holds pieces ps →
    Holds ((a ++ p ++ b) :: pieces) (String.ofList p :: ps)

/-- A text lists parts: they are held by the pieces between its commas. -/
def Lists (s : String) (ps : List String) : Prop :=
  ∃ pieces, pieces ≠ [] ∧ (∀ piece ∈ pieces, ',' ∉ piece) ∧
    s.toList = [','].intercalate pieces ∧ Holds pieces ps

/-- The parts that pieces hold. -/
def partsOf (pieces : List (List Char)) : List String :=
  ((pieces.map Text.trim).filter fun p => !p.isEmpty).map String.ofList

theorem parts_eq (s : String) : parts s = partsOf (s.toList.splitOn ',') := rfl

theorem partsOf_append (xs ys : List (List Char)) :
    partsOf (xs ++ ys) = partsOf xs ++ partsOf ys := by
  simp [partsOf]

theorem partsOf_cons_nil {piece : List Char} (h : Text.trim piece = [])
    (pieces : List (List Char)) : partsOf (piece :: pieces) = partsOf pieces := by
  simp [partsOf, h]

theorem partsOf_cons {piece : List Char} (h : Text.trim piece ≠ []) (pieces : List (List Char)) :
    partsOf (piece :: pieces) = String.ofList (Text.trim piece) :: partsOf pieces := by
  simp [partsOf, h]

theorem partsOf_eq_iff {pieces : List (List Char)} {ps : List String} :
    partsOf pieces = ps ↔ Holds pieces ps := by
  constructor
  · rintro rfl
    induction pieces with
    | nil => exact .nil
    | cons piece pieces ih =>
      by_cases h : Text.trim piece = []
      · rw [partsOf_cons_nil h]
        exact .blank (Text.trim_eq_nil_iff.mp h) ih
      · rw [partsOf_cons h]
        obtain ⟨hp, a, b, ha, hb, hpiece⟩ := Text.trim_eq_iff.mp (rfl : Text.trim piece = _)
        conv_lhs => rw [hpiece]
        exact .part ha hb hp h ih
  · intro h
    induction h with
    | nil => rfl
    | blank hblank _ ih => rw [partsOf_cons_nil (Text.trim_eq_nil_iff.mpr hblank), ih]
    | @part a p b _ _ ha hb hp hne _ ih =>
      have htrim : Text.trim (a ++ p ++ b) = p := Text.trim_eq_iff.mpr ⟨hp, a, b, ha, hb, rfl⟩
      rw [partsOf_cons (htrim.symm ▸ hne), htrim, ih]

/-- **The parts of a text** are those of which it is put together. -/
theorem parts_eq_iff {s : String} {ps : List String} : parts s = ps ↔ Lists s ps := by
  rw [parts_eq, partsOf_eq_iff]
  constructor
  · intro h
    refine ⟨_, List.splitOn_ne_nil ',' s.toList, fun piece hpiece => ?_,
      (List.intercalate_splitOn ',').symm, h⟩
    exact Text.not_mem_of_mem_splitOn hpiece
  · rintro ⟨pieces, hne, hcomma, hs, h⟩
    rwa [hs, List.splitOn_intercalate ',' hcomma hne]

/-- A comma divides the parts of a text. -/
theorem parts_append_comma (s t : String) : parts (s ++ "," ++ t) = parts s ++ parts t := by
  have htext : (s ++ "," ++ t).toList = s.toList ++ ',' :: t.toList := by simp
  rw [parts_eq, parts_eq, parts_eq, htext, List.splitOn_append_cons_self, partsOf_append]

/-- **Texts with commas between them** have the parts of each. -/
theorem parts_intercalate (ss : List String) : parts (",".intercalate ss) = ss.flatMap parts := by
  induction ss with
  | nil => rfl
  | cons s ss ih =>
    cases ss with
    | nil => simp
    | cons t ss =>
      have hcons : ",".intercalate (s :: t :: ss) = s ++ "," ++ ",".intercalate (t :: ss) := by
        rw [← String.toList_inj]
        simp
      rw [hcons, parts_append_comma, ih]
      exact List.flatMap_cons.symm

theorem partsOf_splitOn_pad {a b : List Char} (ha : Blank a) (hb : Blank b) (cs : List Char) :
    partsOf ((a ++ cs ++ b).splitOn ',') = partsOf (cs.splitOn ',') := by
  -- a comma divides the text in two, of which each has blanks at one end only
  induction hn : cs.length using Nat.strong_induction_on generalizing cs a b with
  | _ n ih =>
    by_cases hcomma : ',' ∈ cs
    · obtain ⟨xs, ys, rfl⟩ := List.append_of_mem hcomma
      rw [List.length_append, List.length_cons] at hn
      have hx := ih xs.length (by omega) ha (b := []) nofun xs rfl
      have hy := ih ys.length (by omega) (a := []) nofun hb ys rfl
      rw [List.append_nil] at hx
      rw [List.nil_append] at hy
      have hsplit : a ++ (xs ++ ',' :: ys) ++ b = (a ++ xs) ++ ',' :: (ys ++ b) := by simp
      rw [hsplit, List.splitOn_append_cons_self, List.splitOn_append_cons_self, partsOf_append,
        partsOf_append, hx, hy]
    · have hpadded : ',' ∉ a ++ cs ++ b := by
        simp [ha.notMem_comma, hb.notMem_comma, hcomma]
      rw [List.splitOn_eq_singleton hpadded, List.splitOn_eq_singleton hcomma]
      unfold partsOf
      rw [List.map_singleton, List.map_singleton, Text.trim_pad ha hb]

/-- A text with blanks around it. -/
def Padded (s s' : String) : Prop :=
  ∃ a b : String, Blank a.toList ∧ Blank b.toList ∧ s' = a ++ s ++ b

/-- **Blanks around a text** make no difference to its parts. -/
theorem Padded.parts_eq {s s' : String} (h : Padded s s') : parts s' = parts s := by
  obtain ⟨a, b, ha, hb, rfl⟩ := h
  rw [UsageMask.parts_eq, UsageMask.parts_eq, String.toList_append, String.toList_append,
    partsOf_splitOn_pad ha hb]

/-! ## Parts of a mask -/

/-- A part is the name of a kind, or stands for all of them. -/
def IsKnown (p : String) : Prop := p = "all" ∨ ∃ k : UsageKind, p = k.name

theorem ofName_eq_ok_iff {p : String} {k : UsageKind} :
    UsageKind.ofName p = .ok k ↔ p = k.name := by
  unfold UsageKind.ofName
  constructor
  · intro h
    cases hfind : UsageKind.ofName? p with
    | none => simp [hfind] at h
    | some l =>
      simp only [hfind, Except.ok.injEq] at h
      unfold UsageKind.ofName? at hfind
      have hname := List.find?_some hfind
      rw [← h, beq_iff_eq.mp hname]
  · rintro rfl
    rw [UsageKind.ofName?_name]

theorem ofName_eq_error_iff {p : String} {e : Error} : UsageKind.ofName p = .error e ↔
    (¬ ∃ k : UsageKind, p = k.name) ∧
      e = .invalidArgument "usage" ("Unrecognized usage kind: " ++ p) := by
  simp only [← ofName_eq_ok_iff]
  unfold UsageKind.ofName
  cases UsageKind.ofName? p with
  | none => simp [eq_comm]
  | some k => simp

variable {m m' : UsageMask} {p : String} {ps : List String} {e : Error}

/-- **One part** is added if it is known. -/
theorem exists_addPart_iff : (∃ m', m.addPart p = .ok m') ↔ IsKnown p := by
  unfold addPart IsKnown
  by_cases hall : p = "all"
  · simp [hall]
  · simp only [← ofName_eq_ok_iff, hall, if_false, false_or]
    cases UsageKind.ofName p with
    | ok k => simp
    | error e => simp

/-- One part adds the kind that it names, or all of them. -/
theorem contains_of_addPart (h : m.addPart p = .ok m') (k : UsageKind) :
    m'.contains k = true ↔ m.contains k = true ∨ p = "all" ∨ p = k.name := by
  unfold addPart at h
  by_cases hall : p = "all"
  · simp only [hall, if_true, Except.ok.injEq] at h
    rw [← h]
    simp [hall]
  · simp only [hall, if_false] at h
    cases hname : UsageKind.ofName p with
    | error e => simp [hname] at h
    | ok l =>
      simp only [hname, Except.ok.injEq] at h
      rw [← h, contains_union, contains_single, Bool.or_eq_true, decide_eq_true_eq,
        ofName_eq_ok_iff.mp hname]
      have hl : l.name ≠ "all" := ofName_eq_ok_iff.mp hname ▸ hall
      simp only [hl, false_or]
      exact or_congr_right ⟨fun e => by rw [e], fun e => (UsageKind.name_injective e).symm⟩

theorem addPart_eq_error_iff : m.addPart p = .error e ↔
    ¬ IsKnown p ∧ e = .invalidArgument "usage" ("Unrecognized usage kind: " ++ p) := by
  unfold addPart IsKnown
  by_cases hall : p = "all"
  · simp [hall]
  · simp only [hall, if_false, false_or]
    rw [← ofName_eq_error_iff]
    cases UsageKind.ofName p with
    | ok k => simp
    | error e' => simp

theorem addParts_cons_eq_ok_iff : m.addParts (p :: ps) = .ok m' ↔
    ∃ n, m.addPart p = .ok n ∧ n.addParts ps = .ok m' := by
  rw [addParts]
  cases m.addPart p with
  | ok n => simp
  | error e => simp

/-- **Any parts** are added if all of them are known. -/
theorem exists_addParts_iff : (∃ m', m.addParts ps = .ok m') ↔ ∀ p ∈ ps, IsKnown p := by
  induction ps generalizing m with
  | nil => simp [addParts]
  | cons p ps ih =>
    rw [List.forall_mem_cons, ← exists_addPart_iff (m := m)]
    simp only [addParts_cons_eq_ok_iff]
    constructor
    · rintro ⟨m', n, hn, hm'⟩
      exact ⟨⟨n, hn⟩, ih.mp ⟨m', hm'⟩⟩
    · rintro ⟨⟨n, hn⟩, hps⟩
      obtain ⟨m', hm'⟩ := ih.mpr hps
      exact ⟨m', n, hn, hm'⟩

/-- Any parts add the kinds that they name, or all of them. -/
theorem contains_of_addParts (h : m.addParts ps = .ok m') (k : UsageKind) :
    m'.contains k = true ↔ m.contains k = true ∨ "all" ∈ ps ∨ k.name ∈ ps := by
  induction ps generalizing m with
  | nil =>
    cases h
    simp
  | cons p ps ih =>
    obtain ⟨n, hn, hm'⟩ := addParts_cons_eq_ok_iff.mp h
    rw [ih hm', contains_of_addPart hn, List.mem_cons, List.mem_cons, eq_comm (a := "all"),
      eq_comm (a := k.name), or_assoc, or_or_or_comm]

/-- **The first part that is not known** is refused. -/
theorem addParts_eq_error_iff : m.addParts ps = .error e ↔ ∃ before p after,
    ps = before ++ p :: after ∧ (∀ q ∈ before, IsKnown q) ∧
      ¬ IsKnown p ∧ e = .invalidArgument "usage" ("Unrecognized usage kind: " ++ p) := by
  induction ps generalizing m with
  | nil => simp [addParts]
  | cons p ps ih =>
    rw [exists_first_cons_iff, ← addPart_eq_error_iff (m := m), ← exists_addPart_iff (m := m),
      addParts]
    cases hp : m.addPart p with
    | ok n => simp [ih (m := n)]
    | error e' => simp

/-! ## Masks of texts -/

variable {s t : String} {n : UsageMask}

/-- The mask of a text, by its parts. -/
theorem parse_eq_ok_iff : parse s = .ok m ↔ (∀ p ∈ parts s, IsKnown p) ∧
    ∀ k, m.contains k = true ↔ "all" ∈ parts s ∨ k.name ∈ parts s := by
  unfold parse
  constructor
  · intro h
    refine ⟨exists_addParts_iff.mp ⟨m, h⟩, fun k => ?_⟩
    simpa using contains_of_addParts h k
  · rintro ⟨hknown, hm⟩
    obtain ⟨m', h⟩ := (exists_addParts_iff (m := empty)).mpr hknown
    have hm' : m' = m := ext fun k => by
      rw [Bool.eq_iff_iff, hm, contains_of_addParts h]
      simp
    rw [h, hm']

/-- Texts with the same parts, in any order and number, have the same mask. -/
theorem parse_congr (h : ∀ p, p ∈ parts s ↔ p ∈ parts t) (m : UsageMask) :
    parse s = .ok m ↔ parse t = .ok m := by
  rw [parse_eq_ok_iff, parse_eq_ok_iff]
  simp only [h]

theorem parse_append_comma (hs : parse s = .ok m) (ht : parse t = .ok n) :
    parse (s ++ "," ++ t) = .ok (m.union n) := by
  obtain ⟨hs, hm⟩ := parse_eq_ok_iff.mp hs
  obtain ⟨ht, hn⟩ := parse_eq_ok_iff.mp ht
  rw [parse_eq_ok_iff, parts_append_comma, List.forall_mem_append]
  refine ⟨⟨hs, ht⟩, fun k => ?_⟩
  rw [contains_union, Bool.or_eq_true, hm, hn, List.mem_append, List.mem_append, or_or_or_comm]

/-- **Masks are read from lists of kinds.** A text has a mask exactly if each of its parts is known:
every kind if `all` is one of them, and else the kinds that they name. If it has none, the first of
its parts that is not known is refused, be it behind `all`. So the order and the number of the parts
make no difference to the mask, and neither do blanks around a piece and empty pieces; two texts
with a comma between them have the kinds of both. -/
theorem parse_reads_lists (s : String) :
    (∀ ps, parts s = ps ↔ Lists s ps) ∧
    ((∃ m, parse s = .ok m) ↔ ∀ p ∈ parts s, p = "all" ∨ ∃ k : UsageKind, p = k.name) ∧
    (∀ m, parse s = .ok m → ("all" ∈ parts s → m = all) ∧
      ("all" ∉ parts s → ∀ k, m.contains k = true ↔ k.name ∈ parts s)) ∧
    (∀ e, parse s = .error e ↔ ∃ before p after, parts s = before ++ p :: after ∧
      (∀ q ∈ before, IsKnown q) ∧ ¬ IsKnown p ∧
        e = .invalidArgument "usage" ("Unrecognized usage kind: " ++ p)) ∧
    (∀ t, (∀ p, p ∈ parts s ↔ p ∈ parts t) → ∀ m, parse s = .ok m ↔ parse t = .ok m) ∧
    (∀ ss ss', List.Forall₂ Padded ss ss' →
      parse (",".intercalate ss') = parse (",".intercalate ss)) ∧
    (∀ ss ss', parse (",".intercalate (ss ++ "" :: ss')) = parse (",".intercalate (ss ++ ss'))) ∧
    ∀ t m n, parse s = .ok m → parse t = .ok n → parse (s ++ "," ++ t) = .ok (m.union n) := by
  refine ⟨fun ps => parts_eq_iff, exists_addParts_iff, fun m h => ?_,
    fun e => addParts_eq_error_iff, fun t => parse_congr, fun ss ss' h => ?_,
    fun ss ss' => ?_, fun t m n => parse_append_comma⟩
  · obtain ⟨-, hm⟩ := parse_eq_ok_iff.mp h
    refine ⟨fun hall => ext fun k => ?_, fun hall k => ?_⟩
    · rw [contains_all]
      exact (hm k).mpr (.inl hall)
    · rw [hm]
      exact or_iff_right hall
  · have hparts : parts (",".intercalate ss') = parts (",".intercalate ss) := by
      rw [parts_intercalate, parts_intercalate]
      induction h with
      | nil => rfl
      | cons h _ ih => rw [List.flatMap_cons, List.flatMap_cons, h.parts_eq, ih]
    unfold parse
    rw [hparts]
  · have hempty : parts "" = [] := rfl
    unfold parse
    rw [parts_intercalate, parts_intercalate, List.flatMap_append, List.flatMap_append,
      List.flatMap_cons, hempty, List.nil_append]

/-- The first text names a kind between blanks beside `all`, the second puts a name that is none
behind it, and the third is put together from two. -/
theorem parse_reads_lists_spaced :
    parse " type-reference\u00a0,,all" = .ok all ∧
      parse "all, calls" =
        .error (.invalidArgument "usage" "Unrecognized usage kind: calls") ∧
      parse "super-class,type-reference" =
        .ok ((single .superClass).union (single .typeReference)) := by
  obtain ⟨-, hmade, hmask, -⟩ := parse_reads_lists " type-reference\u00a0,,all"
  obtain ⟨-, -, -, herror, -⟩ := parse_reads_lists "all, calls"
  obtain ⟨-, -, -, -, -, -, -, hunion⟩ := parse_reads_lists "super-class"
  refine ⟨?_, ?_, ?_⟩
  · have hparts : parts " type-reference\u00a0,,all" = ["type-reference", "all"] := by
      decide +kernel
    rw [hparts] at hmade hmask
    have hknown : ∀ p ∈ ["type-reference", "all"], p = "all" ∨ ∃ k : UsageKind, p = k.name :=
      List.forall_mem_cons.mpr
        ⟨.inr ⟨.typeReference, rfl⟩, List.forall_mem_singleton.mpr (.inl rfl)⟩
    obtain ⟨m, hm⟩ := hmade.mpr hknown
    rw [hm, (hmask m hm).1 (by simp)]
  · refine (herror _).mpr ⟨["all"], "calls", [], by decide +kernel, ?_, ?_, rfl⟩
    · simp [IsKnown]
    · rintro (h | ⟨k, h⟩)
      · exact absurd h (by decide)
      · revert h
        cases k <;> decide
  · exact hunion "type-reference" _ _ (by rfl) (by rfl)

end UsageMask

end UsageIndex
