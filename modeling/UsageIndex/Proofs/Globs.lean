import UsageIndex.Pattern.Literal
import UsageIndex.Proofs.Pattern.Room

/-!
# Globs and their patterns

A glob is matched by way of the pattern that it is translated to.

* **`Glob.isMatch_cons`**: a glob matches what its items accept one after the other.
* **`Glob.describes_toPattern`**: the pattern of a glob matches what the glob does.
* **`Glob.leading_prefix`**: every match begins with what the glob asks for before its first
  wildcard.
* **`Glob.keepsToSize`**: only the patterns of very long globs are too large.
-/

namespace UsageIndex.Glob

open UsageIndex.Pattern (Describes Joins KeepsToSize Weighs)

/-! ## Matching -/

/-- The texts that an item stands for. -/
def Item.Accepts : Item → List Char → Prop
  | anyText, _ => True
  | anyChar, w => ∃ c, w = [c]
  | char c, w => w = [c]

/-- **A glob matches what its items accept one after the other.** -/
theorem isMatch_cons {i : Item} {is : List Item} {t : List Char} :
    isMatch (i :: is) t = true ↔ Joins i.Accepts (fun v => isMatch is v = true) t := by
  unfold Joins
  cases i with
  | anyText =>
    simp only [Item.Accepts, true_and]
    induction t with
    | nil =>
      rw [isMatch]
      constructor
      · exact fun h => ⟨[], [], rfl, h⟩
      · rintro ⟨u, v, huv, h⟩
        rwa [(List.nil_eq_append_iff.mp huv).2] at h
    | cons d t ih =>
      rw [isMatch, Bool.or_eq_true, ih]
      constructor
      · rintro (h | ⟨u, v, rfl, h⟩)
        · exact ⟨[], d :: t, rfl, h⟩
        · exact ⟨d :: u, v, rfl, h⟩
      · rintro ⟨u, v, huv, h⟩
        rcases List.cons_eq_append_iff.mp huv with ⟨rfl, rfl⟩ | ⟨u', rfl, rfl⟩
        · exact .inl h
        · exact .inr ⟨u', v, rfl, h⟩
  | anyChar =>
    cases t with
    | nil => simp [isMatch, Item.Accepts]
    | cons d t =>
      rw [isMatch]
      constructor
      · exact fun h => ⟨[d], t, rfl, ⟨d, rfl⟩, h⟩
      · rintro ⟨u, v, huv, ⟨c, rfl⟩, h⟩
        rwa [(List.cons.inj huv).2]
  | char c =>
    cases t with
    | nil => simp [isMatch, Item.Accepts]
    | cons d t =>
      rw [isMatch, Bool.and_eq_true, beq_iff_eq]
      constructor
      · rintro ⟨rfl, h⟩
        exact ⟨[c], t, rfl, rfl, h⟩
      · rintro ⟨u, v, huv, rfl, h⟩
        obtain ⟨rfl, rfl⟩ := List.cons.inj huv
        exact ⟨rfl, h⟩

/-- **Every match begins with the leading characters of the glob.** -/
theorem leading_prefix {is : List Item} {t : List Char} (h : isMatch is t = true) :
    leading is <+: t := by
  induction is generalizing t with
  | nil => exact List.nil_prefix
  | cons i is ih =>
    cases i with
    | anyText | anyChar => exact List.nil_prefix
    | char c =>
      obtain ⟨u, v, rfl, rfl, hv⟩ := isMatch_cons.mp h
      exact (List.prefix_cons_inj c).mpr (ih hv)

/-! ## Literal texts -/

/-- An escaped text stands for its characters, whatever follows it. -/
theorem items_escape_append (cs ds : List Char) :
    items (escape cs ++ ds) = cs.map Item.char ++ items ds := by
  induction cs with
  | nil => rfl
  | cons c cs ih =>
    have hcons : escape (c :: cs) =
        (if c == '*' || c == '?' || c == '\\' then ['\\', c] else [c]) ++ escape cs := by
      unfold escape
      rw [List.flatMap_cons]
    rw [hcons, List.append_assoc, List.map_cons, List.cons_append, ← ih]
    by_cases h : (c == '*' || c == '?' || c == '\\') = true
    · rw [if_pos h]
      rfl
    · rw [if_neg h]
      simp only [Bool.or_eq_true, beq_iff_eq, not_or] at h
      simp [items, h]

/-- Characters match themselves. -/
theorem isMatch_chars_append {cs : List Char} {is : List Item} {t : List Char} :
    isMatch (cs.map Item.char ++ is) t = true ↔ ∃ v, t = cs ++ v ∧ isMatch is v = true := by
  induction cs generalizing t with
  | nil => simp
  | cons c cs ih =>
    rw [List.map_cons, List.cons_append, isMatch_cons]
    constructor
    · rintro ⟨u, v, rfl, rfl, hv⟩
      obtain ⟨w, rfl, hw⟩ := ih.mp hv
      exact ⟨w, rfl, hw⟩
    · rintro ⟨v, rfl, hv⟩
      exact ⟨[c], cs ++ v, rfl, rfl, ih.mpr ⟨v, rfl, hv⟩⟩

/-! ## Patterns -/

theorem describes_item (i : Item) : Describes i.toPattern i.Accepts := by
  cases i with
  | anyText => exact .dotStar
  | anyChar => exact .dot
  | char c => exact .escapeChar c

/-- **The pattern of a glob matches what the glob does.** -/
theorem describes_toPattern (is : List Item) :
    Describes (toPattern is) fun t => isMatch is t = true := by
  induction is with
  | nil =>
    refine Describes.nil.congr fun w => ?_
    rw [isMatch, List.isEmpty_iff]
  | cons i is ih => exact ((describes_item i).append ih).congr fun w => isMatch_cons.symm

/-- The pattern of a glob takes room by the number of its items. -/
theorem weighs_toPattern (is : List Item) : Weighs (toPattern is) (1200 * is.length) := by
  refine Weighs.flatMap (fun i => ?_) is
  cases i with
  | anyText => exact .dotStar
  | anyChar => exact Weighs.dot.mono (by decide)
  | char c => exact (Weighs.escapeChar c).mono (by decide)

/-- The pattern of a glob is not too large, unless the glob is very long. -/
theorem keepsToSize {is : List Item} (h : is.length ≤ 8700) : KeepsToSize (toPattern is) := by
  have hmax : Pattern.maxSize = 10485760 := rfl
  refine Pattern.keepsToSize_of_weighs (weighs_toPattern is) ?_
  omega

theorem length_items_le (cs : List Char) : (items cs).length ≤ cs.length := by
  fun_induction items cs with
  | case1 => exact Nat.le_refl _
  | case2 cs ih | case3 cs ih | case5 c cs _ _ _ ih => exact Nat.succ_le_succ ih
  | case4 c cs ih => exact Nat.le_succ_of_le (Nat.succ_le_succ ih)

end UsageIndex.Glob
