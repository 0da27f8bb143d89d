import Mathlib.Data.List.Forall2
import UsageIndex.Document
import UsageIndex.Proofs.Globs

/-!
# References and slots

A document records the kinds of a name in the slots behind it, and a query asks for some of the
slots to be filled. Both sides agree: the slots that fit a query are those of the documents that
have all its kinds, and a name cannot run into its slots because there is a fixed number of them.

* **`Slots.Fits`**: six characters, `+` in the slots of a mask. **`Slots.fits_present`**: the
  slots of a document fit a mask if it has all kinds of the mask.
* **`Slots.isMatch_glob`**, **`Slots.describes_pattern`**: the slots of globs and patterns match
  what fits.
* **`UsageDocument.mem_terms`**: the terms of a document.
* **`UsageDocument.exists_reference_iff`**: which references of a document a query with slots finds.
-/

namespace UsageIndex

/-- All kinds of one mask are kinds of another. -/
def UsageMask.Within (m K : UsageMask) : Prop := ∀ k, m.contains k = true → K.contains k = true

theorem UsageMask.Within.isEmpty {m K : UsageMask} (h : m.Within K) (hm : m.isEmpty = false) :
    K.isEmpty = false := by
  rw [← Bool.not_eq_true, isEmpty_iff] at hm ⊢
  intro hK
  refine hm fun k => ?_
  rw [← Bool.not_eq_true]
  intro hk
  have hKk := h k hk
  rw [hK k] at hKk
  cases hKk

/-! ## Slots -/

namespace Slots

open UsageIndex.Pattern (Describes Joins)

/-- One character for each kind, `+` where the mask has the kind. -/
def Fits (m : UsageMask) (s : List Char) : Prop :=
  List.Forall₂ (fun k c => m.contains k = true → c = '+') UsageKind.all s

theorem Fits.length_eq {m : UsageMask} {s : List Char} (h : Fits m s) : s.length = 6 :=
  (List.Forall₂.length_eq h).symm

theorem length_present (K : UsageMask) : (present K).length = 6 := List.length_map _

/-- **The slots of a document fit a mask if it has all kinds of the mask.** -/
theorem fits_present {m K : UsageMask} : Fits m (present K) ↔ m.Within K := by
  unfold Fits present
  rw [List.forall₂_map_right_iff, List.forall₂_same]
  constructor
  · intro h k hk
    have hslot := h k (UsageKind.mem_all k) hk
    by_cases hK : K.contains k = true
    · exact hK
    · rw [if_neg hK] at hslot
      cases hslot
  · intro h k _ hk
    rw [if_pos (h k hk)]

/-- What may stand in the slot of a kind. -/
def FitsOne (m : UsageMask) (k : UsageKind) (w : List Char) : Prop :=
  ∃ c, (m.contains k = true → c = '+') ∧ w = [c]

theorem fits_cons {m : UsageMask} {k : UsageKind} {ks : List UsageKind} {w : List Char} :
    List.Forall₂ (fun k c => m.contains k = true → c = '+') (k :: ks) w ↔
      Joins (FitsOne m k) (List.Forall₂ (fun k c => m.contains k = true → c = '+') ks) w := by
  rw [List.forall₂_cons_left_iff]
  constructor
  · rintro ⟨c, v, hc, hv, rfl⟩
    exact ⟨[c], v, rfl, ⟨c, hc, rfl⟩, hv⟩
  · rintro ⟨u, v, rfl, ⟨c, hc, rfl⟩, hv⟩
    exact ⟨c, v, hc, hv, rfl⟩

theorem fitsOne_of_contains {m : UsageMask} {k : UsageKind} (h : m.contains k = true)
    {w : List Char} : FitsOne m k w ↔ w = ['+'] := by
  simp [FitsOne, h]

theorem fitsOne_of_not_contains {m : UsageMask} {k : UsageKind} (h : ¬ m.contains k = true)
    {w : List Char} : FitsOne m k w ↔ ∃ c, w = [c] := by
  simp [FitsOne, h]

/-- **The slots of a glob match what fits.** -/
theorem isMatch_glob {m : UsageMask} {s : List Char} :
    Glob.isMatch (Glob.items (glob m)) s = true ↔ Fits m s := by
  unfold Fits glob
  generalize UsageKind.all = ks
  induction ks generalizing s with
  | nil => rw [List.forall₂_nil_left_iff, List.map_nil, Glob.items, Glob.isMatch, List.isEmpty_iff]
  | cons k ks ih =>
    have hitem : ∃ i : Glob.Item, (∀ w, i.Accepts w ↔ FitsOne m k w) ∧
        ∀ cs, Glob.items ((if m.contains k = true then '+' else '?') :: cs) =
          i :: Glob.items cs := by
      by_cases hk : m.contains k = true
      · simp only [if_pos hk]
        exact ⟨.char '+', fun w => (fitsOne_of_contains hk).symm, fun cs => rfl⟩
      · simp only [if_neg hk]
        exact ⟨.anyChar, fun w => (fitsOne_of_not_contains hk).symm, fun cs => rfl⟩
    obtain ⟨i, haccepts, hitems⟩ := hitem
    rw [List.map_cons, hitems, Glob.isMatch_cons, fits_cons]
    unfold Joins
    simp only [haccepts, ih]

/-- **The slots of a pattern match what fits.** -/
theorem describes_pattern (m : UsageMask) : Describes (pattern m) (Fits m) := by
  unfold Fits pattern
  generalize UsageKind.all = ks
  induction ks with
  | nil =>
    refine Describes.nil.congr fun w => ?_
    rw [List.forall₂_nil_left_iff]
  | cons k ks ih =>
    have hslot : Describes (if m.contains k = true then ['\\', '+'] else ['.']) (FitsOne m k) := by
      by_cases hk : m.contains k = true
      · rw [if_pos hk]
        exact (Describes.escapeChar '+').congr fun w => (fitsOne_of_contains hk).symm
      · rw [if_neg hk]
        exact Describes.dot.congr fun w => (fitsOne_of_not_contains hk).symm
    rw [List.flatMap_cons]
    exact (hslot.append ih).congr fun w => fits_cons.symm

/-- A name and slots of the same number can be told apart. -/
theorem joins_present {N : List Char → Prop} {m K : UsageMask} {n : List Char} :
    Joins N (Fits m) (n ++ present K) ↔ N n ∧ m.Within K := by
  rw [← fits_present]
  constructor
  · rintro ⟨u, v, huv, hu, hv⟩
    obtain ⟨rfl, rfl⟩ := List.append_inj' huv ((length_present K).trans hv.length_eq.symm)
    exact ⟨hu, hv⟩
  · exact fun h => ⟨n, present K, rfl, h.1, h.2⟩

end Slots

/-! ## The terms of a document -/

namespace UsageDocument

open UsageIndex.Pattern (Joins)

variable {d : UsageDocument} {field packageField : String}

theorem mem_terms {t : Term} : t ∈ d.terms (Encoder.slots field) packageField ↔
    t = ⟨packageField, d.package⟩ ∨ ∃ n K, d.references.find? n = some K ∧ K.isEmpty = false ∧
      t = ⟨field, String.ofList (n.toList ++ Slots.present K)⟩ := by
  unfold terms
  simp only [List.mem_cons, List.mem_map, List.mem_filter, Prod.exists, Bool.not_eq_true',
    OrderedMap.mem_entries_iff, and_assoc, Encoder.slots, eq_comm (b := t)]

/-- **References.** Among the terms of a document there is one in the field of references whose
text is a name of `N` with slots that fit a mask exactly if the document refers to a name of `N`
by all kinds of the mask. -/
theorem exists_reference_iff (hfields : field ≠ packageField) {N : List Char → Prop} {m : UsageMask}
    (hm : m.isEmpty = false) :
    (∃ t ∈ d.terms (Encoder.slots field) packageField, t.field = field ∧
        Joins N (Slots.Fits m) t.text.toList) ↔
      ∃ n K, d.references.find? n = some K ∧ N n.toList ∧ m.Within K := by
  constructor
  · rintro ⟨t, ht, hf, hj⟩
    rcases mem_terms.mp ht with rfl | ⟨n, K, hK, -, rfl⟩
    · exact absurd hf.symm hfields
    · rw [String.toList_ofList, Slots.joins_present] at hj
      exact ⟨n, K, hK, hj⟩
  · rintro ⟨n, K, hK, hn, hwithin⟩
    refine ⟨_, mem_terms.mpr (.inr ⟨n, K, hK, hwithin.isEmpty hm, rfl⟩), rfl, ?_⟩
    rw [String.toList_ofList, Slots.joins_present]
    exact ⟨hn, hwithin⟩

/-- Among the terms of a document there is one for its package. -/
theorem mem_terms_package (hfields : field ≠ packageField) {p : String} :
    Term.mk packageField p ∈ d.terms (Encoder.slots field) packageField ↔ p = d.package := by
  rw [mem_terms]
  constructor
  · rintro (h | ⟨n, K, -, -, h⟩)
    · cases h
      rfl
    · cases h
      exact absurd rfl hfields
  · rintro rfl
    exact .inl rfl

end UsageDocument

end UsageIndex
