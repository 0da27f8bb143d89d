import UsageIndex.Proofs.EscapedNames
import UsageIndex.Proofs.IllFormedPatterns
import UsageIndex.Proofs.PackageUsages

/-!
# Literal text of package patterns

The literal text at the start of a pattern is read off its characters, and what was escaped is read
back as it was: the reading takes the backslash from the characters that are given one, and from no
others. Only a bar, which might divide alternatives, gives the literal text up, escaped or not. So a
search for the names directly in a package reads the terms from the package and its dot on.

* **`Pattern.leadingLiteral_escapeWith_iff`**: which characters have to be escaped.
* **`PatternQuery.exists_ofPattern_iff_keepsToSize`**, **`PatternQuery.ofPattern_describes`**: the
  query of a pattern that describes some texts.
* **`createQuery_regexp_escaped`**: escaped texts read back, and the query for the names directly in
  a package.
-/

namespace UsageIndex

open UsageIndex.Pattern (Describes Joins KeepsToSize)

/-! ## Escaped texts -/

namespace Pattern

/-- The pattern of a literal text, if the characters of a set have to be escaped. -/
def escapeWith (special : Char → Bool) (cs : List Char) : List Char :=
  cs.flatMap fun c => if special c then ['\\', c] else [c]

/-- Escaping adds nothing but backslashes. -/
theorem mem_escape {c : Char} (hc : c ≠ '\\') {cs : List Char} : c ∈ escape cs ↔ c ∈ cs := by
  have hchar : ∀ d, c ∈ escapeChar d ↔ c = d := by
    intro d
    unfold escapeChar
    split <;> simp [hc]
  unfold escape
  simp only [List.mem_flatMap, hchar, exists_eq_right']

/-- **An escaped text** is read back, unless there is a bar in it. -/
theorem leadingLiteral_escape (cs : List Char) :
    leadingLiteral (escape cs) = if '|' ∈ cs then [] else cs := by
  have hrun : literalRun (escape cs) = cs := by
    rw [← List.append_nil (escape cs), literalRun_escape_append rfl, literalRun, List.append_nil]
  unfold leadingLiteral
  rw [hrun]
  exact if_congr (mem_escape (by decide)) rfl rfl

/-- **Which characters have to be escaped.** Texts without bars are read back exactly if the
characters that are escaped, the bar aside, are those with a meaning of their own. -/
theorem leadingLiteral_escapeWith_iff {special : Char → Bool} :
    (∀ cs, '|' ∉ cs → leadingLiteral (escapeWith special cs) = cs) ↔
      ∀ c, c ≠ '|' → special c = isMeta c := by
  constructor
  · -- a text of one character tells whether it has to be escaped
    intro h c hc
    have hone := h [c] (by simpa using hc.symm)
    unfold escapeWith leadingLiteral at hone
    cases hs : special c with
    | true =>
      have hbar : '|' ∉ ['\\', c] := by simpa using hc.symm
      simp only [List.flatMap_singleton, hs, if_true, if_neg hbar, literalRun_escaped] at hone
      cases hm : isMeta c with
      | true => rfl
      | false => simp [hm] at hone
    | false =>
      have hbar : '|' ∉ [c] := by simpa using hc.symm
      simp only [List.flatMap_singleton, hs, Bool.false_eq_true, if_false, if_neg hbar] at hone
      cases hm : isMeta c with
      | true => simp [literalRun, isStop_eq_isMeta, hm] at hone
      | false => rfl
  · intro h cs hcs
    have hescape : escapeWith special cs = escape cs := by
      refine List.flatMap_congr fun c hc => ?_
      rw [h c (ne_of_mem_of_not_mem hc hcs)]
      rfl
    rw [hescape, leadingLiteral_escape, if_neg hcs]

end Pattern

/-! ## Package patterns -/

theorem Slots.not_mem_pattern (m : UsageMask) : '|' ∉ Slots.pattern m := by
  unfold Slots.pattern
  rw [List.mem_flatMap]
  rintro ⟨k, -, hk⟩
  split at hk <;> revert hk <;> decide

theorem packagePrefix_of_ne_empty {p : String} (hp : p ≠ "") :
    packagePrefix p = p.toList ++ ['.'] :=
  if_neg (by simpa using hp)

theorem bar_mem_packagePrefix {p : String} : '|' ∈ packagePrefix p ↔ '|' ∈ p.toList := by
  unfold packagePrefix
  split
  · rename_i hp
    rw [String.isEmpty_iff.mp hp]
    rfl
  · simp

/-- **The literal text of a package pattern** is the package and its dot, unless there is a bar in
it. -/
theorem leadingLiteral_packageUsagePattern (p : String) (m : UsageMask) :
    Pattern.leadingLiteral (packageUsagePattern p m) =
      if '|' ∈ p.toList then [] else packagePrefix p := by
  have hbar : '|' ∈ packageUsagePattern p m ↔ '|' ∈ p.toList := by
    have hslots := Slots.not_mem_pattern m
    unfold packageUsagePattern
    rw [packagePattern_eq, List.mem_append, List.mem_append, Pattern.mem_escape (by decide),
      bar_mem_packagePrefix]
    simp [hslots]
  have hrun : Pattern.literalRun (packageUsagePattern p m) = packagePrefix p :=
    literalRun_packagePattern p _
  unfold Pattern.leadingLiteral
  rw [hrun]
  exact if_congr hbar rfl rfl

/-- What references to the names directly in a package, by the kinds of a mask, look like. -/
theorem joins_packagePrefix_iff {p : String} (hp : p ≠ "") {m : UsageMask} {w : List Char} :
    Joins (Joins (· = packagePrefix p) fun x => x ≠ [] ∧ '.' ∉ x) (Slots.Fits m) w ↔
      ∃ x s : List Char, w = p.toList ++ '.' :: x ++ s ∧ x ≠ [] ∧ '.' ∉ x ∧ s.length = 6 ∧
        ∀ k, m.contains k = true → s[k.offset]? = some '+' := by
  rw [packagePrefix_of_ne_empty hp]
  constructor
  · rintro ⟨_, s, rfl, ⟨_, x, rfl, rfl, hx, hdot⟩, hs⟩
    exact ⟨x, s, by simp, hx, hdot, Slots.fits_iff.mp hs⟩
  · rintro ⟨x, s, rfl, hx, hdot, hs⟩
    exact ⟨p.toList ++ ['.'] ++ x, s, by simp, ⟨_, x, rfl, rfl, hx, hdot⟩, Slots.fits_iff.mpr hs⟩

/-! ## Queries -/

namespace PatternQuery

variable {t : Term} {L : List Char → Prop}

/-- The query of a pattern that describes some texts is made exactly if it is not too large. -/
theorem exists_ofPattern_iff_keepsToSize (h : Describes t.text.toList L) :
    (∃ p, ofPattern t false = .ok p) ↔ KeepsToSize t.text.toList := by
  constructor
  · intro hmade tree htree
    exact ((exists_ofPattern_iff.mp hmade).2 tree htree).2
  · intro hsize
    obtain ⟨p, hp, -⟩ := ofPattern_spec h hsize
    exact ⟨p, hp⟩

/-- What the query of a pattern that describes some texts consists of and matches. -/
theorem ofPattern_describes (h : Describes t.text.toList L) {p : PatternQuery}
    (hp : ofPattern t false = .ok p) :
    p.literalPrefix = String.ofList (Pattern.leadingLiteral t.text.toList) ∧
      ∀ u, p.isMatch u = true ↔ L u.toList := by
  obtain ⟨p', hp', -, hliteral, hmatch⟩ :=
    ofPattern_spec h ((exists_ofPattern_iff_keepsToSize h).mp ⟨p, hp⟩)
  rw [hp] at hp'
  cases hp'
  exact ⟨hliteral, hmatch⟩

end PatternQuery

/-- **Escaped texts and package patterns.** An escaped text is read back as the literal text of its
pattern, or if it has a bar nothing is. No other choice of the characters that are escaped, the bar
aside, would be read back. The query for the names directly in a package is made exactly if its
pattern is not too large, as it is not for a package of up to 8000 characters. Its literal prefix is
the package and a dot, or empty if the package has a bar. It matches the package and a dot with a
text without dots and six slots behind them, `+` in those of the mask, and nothing else. -/
theorem createQuery_regexp_escaped {field caselessField : String} (hfield : field ≠ "")
    (hcaseless : caselessField ≠ "") :
    (∀ s, Pattern.leadingLiteral (Pattern.escape s) = if '|' ∈ s then [] else s) ∧
    (∀ special : Char → Bool,
      (∀ s, '|' ∉ s → Pattern.leadingLiteral (Pattern.escapeWith special s) = s) ↔
        ∀ c, c ≠ '|' → special c = Pattern.isMeta c) ∧
    ∀ (p : String) (m : UsageMask), p ≠ "" →
      let t := (Encoder.slots field).referencesTerm (packagePattern p) m true
      ((∃ q, createQuery t.field caselessField t.text .regexp = .ok q) ↔
        KeepsToSize (packageUsagePattern p m)) ∧
      (p.toList.length ≤ 8000 → KeepsToSize (packageUsagePattern p m)) ∧
      ∀ q, createQuery t.field caselessField t.text .regexp = .ok q → ∃ r, q = .regexp r ∧
        r.literalPrefix = (if '|' ∈ p.toList then "" else p ++ ".") ∧
        ∀ u, r.isMatch u = true ↔ ∃ x s : List Char,
          u.toList = p.toList ++ '.' :: x ++ s ∧ x ≠ [] ∧ '.' ∉ x ∧ s.length = 6 ∧
            ∀ k, m.contains k = true → s[k.offset]? = some '+' := by
  refine ⟨Pattern.leadingLiteral_escape, fun _ => Pattern.leadingLiteral_escapeWith_iff, ?_⟩
  intro p m hp t
  have htext : t.text.toList = packageUsagePattern p m := String.toList_ofList
  have hdescribes : Describes t.text.toList
      (Joins (Joins (· = packagePrefix p) fun x => x ≠ [] ∧ '.' ∉ x) (Slots.Fits m)) := by
    rw [htext]
    exact describes_packageUsagePattern p m
  refine ⟨?_, Session.keepsToSize_packageUsagePattern, fun q hq => ?_⟩
  · rw [← htext, ← PatternQuery.exists_ofPattern_iff_keepsToSize hdescribes]
    constructor
    · rintro ⟨q, hq⟩
      obtain ⟨-, -, r, hr, -⟩ := createQuery_eq_ok_iff.mp hq
      exact ⟨r, hr⟩
    · rintro ⟨r, hr⟩
      exact ⟨_, createQuery_regexp hfield hcaseless hr⟩
  · obtain ⟨-, -, r, hr, rfl⟩ := createQuery_eq_ok_iff.mp hq
    obtain ⟨hliteral, hmatch⟩ := PatternQuery.ofPattern_describes hdescribes hr
    refine ⟨r, rfl, ?_, fun u => (hmatch u).trans (joins_packagePrefix_iff hp)⟩
    rw [hliteral, htext, leadingLiteral_packageUsagePattern, packagePrefix_of_ne_empty hp,
      ← String.toList_inj, String.toList_ofList]
    split
    · rfl
    · rw [String.toList_append]
      rfl

/-- A package with a character that is escaped, where the name and the slots that are not asked for
are left open, and one with a bar. -/
theorem createQuery_regexp_escaped_packages :
    Pattern.leadingLiteral (Pattern.escape ['a', '*']) = ['a', '*'] ∧
    (∃ r, createQuery "r" "c" ((Encoder.slots "r").referencesTerm (packagePattern "a*")
        (.single .superInterface) true).text .regexp = .ok (.regexp r) ∧
      r.literalPrefix = "a*." ∧ r.isMatch "a*.\n-+----" = true ∧
        r.isMatch "aa.B-+----" = false ∧ r.isMatch "a*.-+----" = false) ∧
    ∃ r, createQuery "r" "c" ((Encoder.slots "r").referencesTerm (packagePattern "a|b")
        (.single .superInterface) true).text .regexp = .ok (.regexp r) ∧
      r.literalPrefix = "" ∧ r.isMatch "a|b.C-+----" = true := by
  obtain ⟨hescape, -, hpackage⟩ := createQuery_regexp_escaped (by decide : "r" ≠ "")
    (by decide : "c" ≠ "")
  have hslots : ∀ k, (UsageMask.single .superInterface).contains k = true →
      ['-', '+', '-', '-', '-', '-'][k.offset]? = some '+' := by
    intro k
    cases k <;> decide
  refine ⟨hescape _, ?_, ?_⟩
  · obtain ⟨hmade, hsize, hquery⟩ := hpackage "a*" (.single .superInterface) (by decide)
    obtain ⟨q, hq⟩ := hmade.mpr (hsize (by decide))
    obtain ⟨r, rfl, hliteral, hmatch⟩ := hquery q hq
    refine ⟨r, hq, hliteral, (hmatch _).mpr ?_, ?_, ?_⟩
    · exact ⟨['\n'], _, rfl, by decide, by decide, rfl, hslots⟩
    · rw [← Bool.not_eq_true, hmatch]
      rintro ⟨x, s, hu, -⟩
      cases hu
    · rw [← Bool.not_eq_true, hmatch]
      rintro ⟨x, s, hu, hx, -, hlength, -⟩
      have hcount := congrArg List.length hu
      rw [List.length_append, List.length_append, List.length_cons, hlength] at hcount
      have hnine : 9 = 2 + (x.length + 1) + 6 := hcount
      exact hx (List.length_eq_zero_iff.mp (by omega))
  · obtain ⟨hmade, hsize, hquery⟩ := hpackage "a|b" (.single .superInterface) (by decide)
    obtain ⟨q, hq⟩ := hmade.mpr (hsize (by decide))
    obtain ⟨r, rfl, hliteral, hmatch⟩ := hquery q hq
    exact ⟨r, hq, hliteral,
      (hmatch _).mpr ⟨['C'], _, rfl, by decide, by decide, rfl, hslots⟩⟩

end UsageIndex
