import UsageIndex.Proofs.Usages

/-!
# Escaped names

A query for a name asks for it as a glob, with the name escaped and a slot for each kind behind it.
The glob reads the name back as it is, whatever characters it has and whatever it ends in, so that
nothing but the slots that are not asked for is left open.

* **`Slots.fits_iff`**: the slots that fit a mask, slot by slot.
* **`Slots.leading_glob`**: a glob asks for the slots up to the first that is open.
* **`createQuery_wildcard_escaped`**: what the query for a name matches, and with what every match
  begins.
-/

namespace UsageIndex

open UsageIndex.Pattern (KeepsToSize)

/-! ## Names and slots -/

/-- Characters before everything else are asked for. -/
theorem Glob.leading_chars_append (cs : List Char) (is : List Glob.Item) :
    Glob.leading (cs.map Glob.Item.char ++ is) = cs ++ Glob.leading is := by
  induction cs with
  | nil => rfl
  | cons c cs ih => rw [List.map_cons, List.cons_append, Glob.leading, ih, List.cons_append]

namespace Slots

/-- **What fits a mask, slot by slot.** -/
theorem fits_iff {m : UsageMask} {s : List Char} :
    Fits m s ↔ s.length = 6 ∧ ∀ k, m.contains k = true → s[k.offset]? = some '+' := by
  have hslot : ∀ k : UsageKind, UsageKind.all[k.offset]? = some k := by
    intro k
    cases k <;> rfl
  have hoffset : ∀ i : Fin UsageKind.all.length, (UsageKind.all.get i).offset = i := by
    decide
  unfold Fits
  rw [List.forall₂_iff_get]
  constructor
  · rintro ⟨hlength, h⟩
    refine ⟨hlength.symm, fun k hk => ?_⟩
    obtain ⟨hlt, hget⟩ := List.getElem?_eq_some_iff.mp (hslot k)
    have hlt' : k.offset < s.length := hlength ▸ hlt
    have hplus := h k.offset hlt hlt'
    simp only [List.get_eq_getElem, hget] at hplus
    rw [List.getElem?_eq_getElem hlt', hplus hk]
  · rintro ⟨hlength, h⟩
    refine ⟨hlength.symm, fun i hi hi' => ?_⟩
    intro hk
    have hplus := h _ hk
    rwa [hoffset ⟨i, hi⟩, List.getElem?_eq_getElem hi', Option.some.injEq] at hplus

/-- **The slots of a glob** are asked for up to the first that is open. -/
theorem leading_glob (m : UsageMask) : Glob.leading (Glob.items (glob m)) =
    (UsageKind.all.takeWhile m.contains).map fun _ => '+' := by
  unfold glob
  generalize UsageKind.all = ks
  induction ks with
  | nil => rfl
  | cons k ks ih =>
    rw [List.map_cons, List.takeWhile_cons]
    by_cases hk : m.contains k = true
    · rw [if_pos hk, if_pos hk, List.map_cons, ← ih]
      rfl
    · rw [if_neg hk, if_neg hk]
      rfl

end Slots

/-! ## Queries -/

/-- **The query for a name.** The glob of a name and a mask has a query exactly if its pattern is
not too large, as it is not for a name of up to 8000 characters. The query matches the name with six
slots behind it, `+` in those of the mask, and nothing else; its literal prefix is the name and the
slots before the first that is open. -/
theorem createQuery_wildcard_escaped {field caselessField : String} (hfield : field ≠ "")
    (hcaseless : caselessField ≠ "") (name : String) (m : UsageMask) :
    let t := (Encoder.slots field).referencesTerm name m false
    ((∃ q, createQuery t.field caselessField t.text .wildcard = .ok q) ↔
      KeepsToSize (usagePattern name m)) ∧
    (name.toList.length ≤ 8000 → KeepsToSize (usagePattern name m)) ∧
    ∀ q, createQuery t.field caselessField t.text .wildcard = .ok q → ∃ p, q = .wildcard p ∧
      (∀ u, p.isMatch u = true ↔ ∃ s : List Char, u.toList = name.toList ++ s ∧ s.length = 6 ∧
        ∀ k, m.contains k = true → s[k.offset]? = some '+') ∧
      p.literalPrefix = String.ofList
        (name.toList ++ (UsageKind.all.takeWhile m.contains).map fun _ => '+') := by
  intro t
  have hitems : Glob.items t.text.toList =
      name.toList.map .char ++ Glob.items (Slots.glob m) := by
    have htext : t.text = String.ofList (Glob.escape name.toList ++ Slots.glob m) := rfl
    rw [htext, String.toList_ofList, Glob.items_escape_append]
  have hpattern : Glob.toPattern (Glob.items t.text.toList) = usagePattern name m := by
    unfold usagePattern
    rw [hitems, Glob.items_escape_append]
  refine ⟨?_, Session.keepsToSize_usagePattern, fun q hq => ?_⟩
  · rw [← hpattern, ← PatternQuery.exists_ofGlob_iff]
    constructor
    · rintro ⟨q, hq⟩
      obtain ⟨-, -, p, hp, -⟩ := createQuery_eq_ok_iff.mp hq
      exact ⟨p, hp⟩
    · rintro ⟨p, hp⟩
      exact ⟨_, createQuery_wildcard hfield hcaseless hp⟩
  · obtain ⟨-, -, p, hp, rfl⟩ := createQuery_eq_ok_iff.mp hq
    refine ⟨p, rfl, fun u => ?_, ?_⟩
    · rw [PatternQuery.isMatch_ofGlob hp, hitems, Glob.isMatch_chars_append]
      simp only [Slots.isMatch_glob, Slots.fits_iff]
    · obtain ⟨c, -, rfl⟩ := PatternQuery.ofGlob_eq_ok_iff.mp hp
      show String.ofList (Glob.leading (Glob.items t.text.toList)) = _
      rw [hitems, Glob.leading_chars_append, Slots.leading_glob]

/-- The name ends in a backslash, in front of a slot that is open, and the second slot is asked
for. -/
theorem createQuery_wildcard_escaped_backslash : ∃ p,
    createQuery "references" "references" "a\\*\\\\?+????" .wildcard = .ok (.wildcard p) ∧
      p.isMatch "a*\\-+---+" = true ∧ p.isMatch "a*\\------" = false ∧
      p.isMatch "ab\\-+---+" = false ∧ p.literalPrefix = "a*\\" := by
  obtain ⟨hmade, hsize, hquery⟩ := createQuery_wildcard_escaped
    (by decide : "references" ≠ "") (by decide : "references" ≠ "") "a*\\"
    (UsageMask.single .superInterface)
  obtain ⟨q, hq⟩ := hmade.mpr (hsize (by decide))
  obtain ⟨p, rfl, hmatch, hprefix⟩ := hquery q hq
  refine ⟨p, hq, (hmatch _).mpr ⟨"-+---+".toList, by decide, by decide, ?_⟩, ?_, ?_, hprefix⟩
  · intro k
    cases k <;> decide
  · rw [← Bool.not_eq_true, hmatch]
    rintro ⟨s, hs, -, hslots⟩
    have hs : "a*\\".toList ++ "------".toList = "a*\\".toList ++ s := hs
    have hs : "------".toList = s := List.append_cancel_left hs
    rw [← hs] at hslots
    exact absurd (hslots .superInterface (by decide)) (by decide)
  · rw [← Bool.not_eq_true, hmatch]
    rintro ⟨s, hs, -, -⟩
    cases hs

end UsageIndex
