import UsageIndex.Proofs.PatternQueries
import UsageIndex.Proofs.UsageQueries

/-!
# Wildcard queries

A wildcard query is made of every text, and what it finds can be told from the text alone: the
documents with a term that the text matches as a glob. Neither the pattern to which the glob is
translated nor the place of the dictionary from which the search reads shows.

* **`Glob.Matches`**: a text matches a glob, by the characters of the glob. **`Glob.matches_iff`**:
  the matching of its items decides this.
* **`createQuery_wildcard_finds_matches`**: what a wildcard query matches, and what it finds in a
  segment in memory.
-/

namespace UsageIndex

open UsageIndex.Pattern (KeepsToSize)

namespace Glob

/-! ## Matching -/

/-- A whole text matches a glob: `*` stands for any text, `?` for any one character, a backslash
takes the meaning from the character behind it and stands for itself at the end, and every other
character stands for itself. -/
inductive Matches : List Char → List Char → Prop where
  | nil : Matches [] []
  | anyText {w u t : List Char} : Matches w t → Matches ('*' :: w) (u ++ t)
  | anyChar {w t : List Char} {c : Char} : Matches w t → Matches ('?' :: w) (c :: t)
  | escaped {w t : List Char} {c : Char} : Matches w t → Matches ('\\' :: c :: w) (c :: t)
  | backslash : Matches ['\\'] ['\\']
  | literal {w t : List Char} {c : Char} : c ∉ ['*', '?', '\\'] → Matches w t →
      Matches (c :: w) (c :: t)

theorem items_literal {c : Char} (h : c ∉ ['*', '?', '\\']) (w : List Char) :
    items (c :: w) = .char c :: items w := by
  rw [items.eq_def]
  split
  case h_5 heq =>
    cases heq
    rfl
  case h_1 heq => cases heq
  all_goals
    rename_i heq
    cases heq
    exact absurd (by decide) h

theorem isMatch_char {c : Char} {is : List Item} {t : List Char} :
    isMatch (.char c :: is) t = true ↔ ∃ v, t = c :: v ∧ isMatch is v = true := by
  rw [isMatch_cons]
  constructor
  · rintro ⟨u, v, rfl, rfl, hv⟩
    exact ⟨v, rfl, hv⟩
  · rintro ⟨v, rfl, hv⟩
    exact ⟨[c], v, rfl, rfl, hv⟩

theorem isMatch_items_of_matches {w t : List Char} (h : Matches w t) :
    isMatch (items w) t = true := by
  induction h with
  | nil => simp [items, isMatch]
  | anyText _ ih => exact isMatch_cons.mpr ⟨_, _, rfl, trivial, ih⟩
  | anyChar _ ih => exact isMatch_cons.mpr ⟨[_], _, rfl, ⟨_, rfl⟩, ih⟩
  | escaped _ ih => exact isMatch_char.mpr ⟨_, rfl, ih⟩
  | backslash => simp [items, isMatch]
  | literal hc _ ih =>
    rw [items_literal hc]
    exact isMatch_char.mpr ⟨_, rfl, ih⟩

/-- **The matching of its items decides whether a text matches a glob.** -/
theorem matches_iff {w t : List Char} : Matches w t ↔ isMatch (items w) t = true := by
  refine ⟨isMatch_items_of_matches, fun h => ?_⟩
  fun_induction items w generalizing t with
  | case1 =>
    rw [isMatch, List.isEmpty_iff] at h
    rw [h]
    exact .nil
  | case2 w ih =>
    obtain ⟨u, v, rfl, -, hv⟩ := isMatch_cons.mp h
    exact .anyText (ih hv)
  | case3 w ih =>
    obtain ⟨_, v, rfl, ⟨c, rfl⟩, hv⟩ := isMatch_cons.mp h
    exact .anyChar (ih hv)
  | case4 c w ih =>
    obtain ⟨v, rfl, hv⟩ := isMatch_char.mp h
    exact .escaped (ih hv)
  | case5 c w hstar hmark hback ih =>
    obtain ⟨v, rfl, hv⟩ := isMatch_char.mp h
    by_cases hc : c = '\\'
    · -- a backslash that takes no meaning away stands at the end
      cases w with
      | nil =>
        cases ih hv
        rw [hc]
        exact .backslash
      | cons d w => exact absurd rfl (hback d w hc)
    · have hne : c ∉ ['*', '?', '\\'] := by
        simpa [hc] using ⟨hstar, hmark⟩
      exact .literal hne (ih hv)

end Glob

/-! ## Queries -/

/-- **Wildcard queries.** A wildcard query is made of every text whose pattern is not too large. It
matches what the text does as a glob, every match begins with its literal prefix, and in a segment
in memory it finds the documents with a term of the field that the text matches. -/
theorem createQuery_wildcard_finds_matches {field caselessField w : String} (hfield : field ≠ "")
    (hcaseless : caselessField ≠ "")
    (hsize : KeepsToSize (Glob.toPattern (Glob.items w.toList))) :
    ∃ p, createQuery field caselessField w .wildcard = .ok (.wildcard p) ∧
      (∀ t, p.isMatch t = true ↔ Glob.Matches w.toList t.toList) ∧
      (∀ t, p.isMatch t = true → Text.startsWith t p.literalPrefix = true) ∧
      ∀ docs, ∃ r, execute (MemorySegment.ofDocuments docs).segment (.wildcard p) = .ok r ∧
        r.span = docs.length ∧ ∀ i, r.contains i = true ↔
          ∃ ts, docs[i]? = some ts ∧
            ∃ u ∈ ts, u.field = field ∧ Glob.Matches w.toList u.text.toList := by
  obtain ⟨p, hp, hterm, hprefix, hmatch⟩ := PatternQuery.ofGlob_spec (t := ⟨field, w⟩) hsize
  have hleading : ∀ t, p.isMatch t = true → Text.startsWith t p.literalPrefix = true := by
    intro t ht
    rw [Text.startsWith_iff, hprefix, String.toList_ofList]
    exact Glob.leading_prefix ((hmatch t).mp ht)
  refine ⟨p, createQuery_wildcard hfield hcaseless hp, fun t => ?_, hleading, fun docs => ?_⟩
  · rw [hmatch, Glob.matches_iff]
  · obtain ⟨r, hr, hspan, hmem⟩ := MemorySegment.leads_iff_finds_matches.mp hleading docs
    refine ⟨r, by rw [execute, hr, orError], hspan, fun i => ?_⟩
    rw [hmem i, hterm]
    simp only [hmatch, Glob.matches_iff]

/-- Three documents, the first with a line break behind `a*`, the second with nothing there, and the
third with a text in another field. -/
def starredDocuments : List (List Term) := [[⟨"f", "a*\n"⟩], [⟨"f", "a*"⟩], [⟨"g", "a*b"⟩]]

/-- An escaped star is a star, and a question mark stands for a line break too. -/
theorem createQuery_wildcard_starred : ∃ p r,
    createQuery "f" "f" "a\\*?*" .wildcard = .ok (.wildcard p) ∧
      execute (MemorySegment.ofDocuments starredDocuments).segment (.wildcard p) = .ok r ∧
      r.contains 0 = true ∧ r.contains 1 = false ∧ r.contains 2 = false := by
  obtain ⟨p, hp, -, -, hfinds⟩ := createQuery_wildcard_finds_matches (w := "a\\*?*")
    (by decide : "f" ≠ "") (by decide : "f" ≠ "") (Glob.keepsToSize (by decide))
  obtain ⟨r, hr, -, hmem⟩ := hfinds starredDocuments
  refine ⟨p, r, hp, hr, (hmem 0).mpr ?_, ?_, ?_⟩
  · refine ⟨_, rfl, _, List.mem_singleton_self _, rfl, ?_⟩
    exact .literal (by decide) (.escaped (.anyChar (.anyText (u := []) .nil)))
  · rw [← Bool.not_eq_true, hmem 1]
    simp [starredDocuments, Glob.matches_iff, Glob.items, Glob.isMatch]
  · rw [← Bool.not_eq_true, hmem 2]
    simp [starredDocuments]

end UsageIndex
