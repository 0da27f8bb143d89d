import UsageIndex.Proofs.Slices
import UsageIndex.Proofs.Slots

/-!
# Decoding references

A reference of a document is a name with one slot for each kind behind it. What decodes is just
what was encoded, and the slots are the last six bytes of a text as well as its last six characters:
where a character of several bytes reaches into them, the slots are fewer than six or one of them is
that character.

* **`Slots.decode?_eq_some_iff`**: the texts that decode, and what they decode to.
* **`decodeBySlices?_eq_some_iff`**: the same where the text is cut at a byte offset.
* **`documentTerm_inj`**: no two references have the same term.
* **`decodeReference_inverts_documentTerm`**: references and the texts that decode are in one to
  one correspondence.
-/

namespace UsageIndex

namespace Slots

/-! ## Slots of a mask -/

theorem isSlot_iff {c : Char} : isSlot c = true ↔ c = '+' ∨ c = '-' := by
  simp [isSlot]

theorem isSlot_of_mem_present {m : UsageMask} {c : Char} (h : c ∈ present m) :
    isSlot c = true := by
  obtain ⟨k, -, rfl⟩ := List.mem_map.mp h
  by_cases hk : m.contains k = true
  · rw [if_pos hk]
    rfl
  · rw [if_neg hk]
    rfl

/-- As many slots as there are kinds tell for each of the kinds whether its slot is `+`. -/
theorem exists_filled {ks : List UsageKind} (hks : ks.Nodup) {s : List Char}
    (hlength : s.length = ks.length) (h : ∀ c ∈ s, isSlot c = true) :
    ∃ filled : UsageKind → Bool, s = ks.map fun k => if filled k then '+' else '-' := by
  induction ks generalizing s with
  | nil => exact ⟨fun _ => false, List.length_eq_zero_iff.mp hlength⟩
  | cons k ks ih =>
    obtain ⟨c, cs, rfl⟩ := List.exists_cons_of_length_eq_add_one hlength
    rw [List.nodup_cons] at hks
    obtain ⟨filled, hfilled⟩ := ih hks.2 (Nat.succ.inj hlength)
      fun d hd => h d (List.mem_cons_of_mem c hd)
    refine ⟨fun l => if l = k then c == '+' else filled l, ?_⟩
    have hhead : (if c == '+' then '+' else '-') = c := by
      rcases isSlot_iff.mp (h c List.mem_cons_self) with rfl | rfl <;> rfl
    have htail : (ks.map fun l => if (if l = k then c == '+' else filled l) then '+' else '-') =
        cs := by
      rw [hfilled]
      refine List.map_congr_left fun l hl => ?_
      rw [if_neg (ne_of_mem_of_not_mem hl hks.1)]
    simp only [List.map_cons, if_true, hhead, htail]

/-- Six slots are the slots of a mask. -/
theorem exists_eq_present {s : List Char} (hlength : s.length = 6)
    (h : ∀ c ∈ s, isSlot c = true) : ∃ m, s = present m := by
  obtain ⟨filled, rfl⟩ := exists_filled (by decide : UsageKind.all.Nodup) hlength h
  refine ⟨UsageMask.ofList (UsageKind.all.filter filled), ?_⟩
  unfold present
  simp [UsageKind.mem_all]

/-- The slots of a mask tell the mask. -/
theorem maskOf_present (m : UsageMask) : maskOf (present m) = m := by
  have hzip : UsageKind.all.zip (present m) =
      UsageKind.all.map fun k => (k, if m.contains k then '+' else '-') := by
    unfold present
    rw [List.map_prod_left_eq_zip]
  refine UsageMask.ext fun k => ?_
  unfold maskOf
  rw [hzip, UsageMask.contains_ofList]
  by_cases hk : m.contains k = true <;> simp [hk, UsageKind.mem_all]

/-- **The texts that decode** are names with the slots of a mask behind them. -/
theorem decode?_eq_some_iff {cs n : List Char} {m : UsageMask} :
    decode? cs = some (n, m) ↔ cs = n ++ present m := by
  constructor
  · intro h
    unfold decode? at h
    simp only [Option.ite_none_right_eq_some, Option.some.injEq, Prod.mk.injEq] at h
    obtain ⟨⟨hlength, hslots⟩, rfl, rfl⟩ := h
    have hdrop : (cs.drop (cs.length - 6)).length = 6 := by
      rw [List.length_drop]
      omega
    obtain ⟨m, hm⟩ := exists_eq_present hdrop (List.all_eq_true.mp hslots)
    rw [hm, maskOf_present, ← hm, List.take_append_drop]
  · rintro rfl
    have hlength : (n ++ present m).length = n.length + 6 := by
      rw [List.length_append, length_present]
    have hslots : (present m).all isSlot = true :=
      List.all_eq_true.mpr fun c => isSlot_of_mem_present
    unfold decode?
    simp only [hlength, Nat.add_sub_cancel, List.drop_left, List.take_left, maskOf_present, hslots,
      Nat.le_add_left, and_self, if_true]

end Slots

/-! ## Slots as bytes -/

namespace Text

theorem append_of_splitAtByte? {n : Nat} {cs a b : List Char}
    (h : splitAtByte? n cs = some (a, b)) : cs = a ++ b ∧ byteLength a = n := by
  fun_induction splitAtByte? n cs generalizing a b with
  | case1 cs =>
    cases h
    exact ⟨rfl, rfl⟩
  | case2 => cases h
  | case3 n c cs hle ih =>
    obtain ⟨⟨a', b'⟩, hsplit, he⟩ := Option.map_eq_some_iff.mp h
    cases he
    obtain ⟨rfl, hlength⟩ := ih hsplit
    refine ⟨rfl, ?_⟩
    rw [byteLength, hlength]
    omega
  | case4 => cases h

theorem length_le_byteLength (cs : List Char) : cs.length ≤ byteLength cs := by
  induction cs with
  | nil => exact Nat.le_refl 0
  | cons c cs ih =>
    have hpos : 0 < c.utf8Size := Char.utf8Size_pos c
    rw [List.length_cons, byteLength]
    omega

/-- A slot is one byte. -/
theorem byteLength_of_isSlot {cs : List Char} (h : ∀ c ∈ cs, Slots.isSlot c = true) :
    byteLength cs = cs.length := by
  induction cs with
  | nil => rfl
  | cons c cs ih =>
    have hc : c.utf8Size = 1 := by
      rcases Slots.isSlot_iff.mp (h c List.mem_cons_self) with rfl | rfl <;> rfl
    rw [byteLength, hc, ih fun d hd => h d (List.mem_cons_of_mem c hd), List.length_cons,
      Nat.add_comm]

end Text

namespace Slots

/-- The kinds of slots, added to a mask one after the other; none if one of them is no slot. -/
def addFilled? (m : UsageMask) : List (Char × UsageKind) → Option UsageMask
  | [] => some m
  | (c, k) :: slots =>
    if c = '+' then addFilled? (m.union (UsageMask.single k)) slots
    else if c = '-' then addFilled? m slots
    else none

/-- If there are kinds enough, each character is looked at. -/
theorem addFilled?_zip {s : List Char} {ks : List UsageKind} (h : s.length ≤ ks.length)
    (m : UsageMask) : addFilled? m (s.zip ks) =
      if s.all isSlot then
        some ((((ks.zip s).filter fun p => p.2 == '+').map Prod.fst).foldl
          (fun m k => m.union (UsageMask.single k)) m)
      else none := by
  induction s generalizing ks m with
  | nil => simp [addFilled?]
  | cons c s ih =>
    cases ks with
    | nil => cases h
    | cons k ks =>
      have ih := ih (Nat.le_of_succ_le_succ h)
      rw [List.zip_cons_cons, List.zip_cons_cons, List.all_cons, addFilled?]
      by_cases hplus : c = '+'
      · subst hplus
        rw [if_pos rfl, ih]
        rfl
      · by_cases hminus : c = '-'
        · subst hminus
          rw [if_neg hplus, if_pos rfl, ih]
          rfl
        · have hslot : isSlot c = false := by
            simp [isSlot, hplus, hminus]
          rw [if_neg hplus, if_neg hminus, hslot]
          rfl

end Slots

/-- The name and the kinds of a reference encoded with slots, where the slots are the last six bytes
of the text; none if the text cannot be cut there. -/
def decodeBySlices? (text : String) : Option (String × UsageMask) :=
  if 6 ≤ text.utf8ByteSize then do
    let s ← Text.splitAtByte? (text.utf8ByteSize - 6) text.toList
    let m ← Slots.addFilled? UsageMask.empty (s.2.zip UsageKind.all)
    return (String.ofList s.1, m)
  else none

theorem decodeReference?_eq_some_iff {text n : String} {m : UsageMask} :
    decodeReference? text = some (n, m) ↔ text.toList = n.toList ++ Slots.present m := by
  unfold decodeReference?
  rw [← Slots.decode?_eq_some_iff, Option.map_eq_some_iff]
  constructor
  · rintro ⟨⟨cs, m'⟩, hdecode, he⟩
    cases he
    rwa [String.toList_ofList]
  · intro h
    exact ⟨_, h, by rw [String.ofList_toList]⟩

/-- **Slots as bytes.** A text whose last six bytes are taken for slots decodes to the same. -/
theorem decodeBySlices?_eq_some_iff {text n : String} {m : UsageMask} :
    decodeBySlices? text = some (n, m) ↔ text.toList = n.toList ++ Slots.present m := by
  unfold decodeBySlices?
  simp only [Text.utf8ByteSize_eq]
  constructor
  · intro h
    simp only [Option.ite_none_right_eq_some, bind, Option.bind_eq_some_iff, pure,
      Option.some.injEq, Prod.mk.injEq, Prod.exists] at h
    obtain ⟨hsize, a, b, hsplit, m', hm', rfl, rfl⟩ := h
    obtain ⟨htext, ha⟩ := Text.append_of_splitAtByte? hsplit
    have hb : Text.byteLength b = 6 := by
      rw [htext, Text.byteLength_append] at ha hsize
      omega
    -- there are at most as many characters as bytes, so that no character is left out
    have hle : b.length ≤ UsageKind.all.length :=
      Nat.le_trans (Text.length_le_byteLength b) (Nat.le_of_eq hb)
    rw [Slots.addFilled?_zip hle, Option.ite_none_right_eq_some] at hm'
    obtain ⟨hslots, hm'⟩ := hm'
    have hslots := List.all_eq_true.mp hslots
    obtain ⟨K, rfl⟩ := Slots.exists_eq_present ((Text.byteLength_of_isSlot hslots).symm.trans hb)
      hslots
    have hK : K = m' := (Slots.maskOf_present K).symm.trans (Option.some.inj hm')
    rw [htext, String.toList_ofList, hK]
  · intro h
    have hslots : (Slots.present m).all Slots.isSlot = true :=
      List.all_eq_true.mpr fun c => Slots.isSlot_of_mem_present
    have hbytes : Text.byteLength (Slots.present m) = 6 :=
      (Text.byteLength_of_isSlot (List.all_eq_true.mp hslots)).trans (Slots.length_present m)
    have hmask : Slots.addFilled? UsageMask.empty ((Slots.present m).zip UsageKind.all) =
        some m := by
      rw [Slots.addFilled?_zip (Nat.le_of_eq (Slots.length_present m)), if_pos hslots]
      exact congrArg some (Slots.maskOf_present m)
    rw [h, Text.byteLength_append, hbytes, if_pos (Nat.le_add_left _ _), Nat.add_sub_cancel,
      Text.splitAtByte?_byteLength]
    simp only [bind, Option.bind_some, hmask, pure, String.ofList_toList]

/-! ## References and their texts -/

variable {field n n' : String} {m m' : UsageMask}

/-- The text of a reference of a document. -/
theorem text_documentTerm_eq_iff {text : String} :
    ((Encoder.slots field).documentTerm n m).text = text ↔
      text.toList = n.toList ++ Slots.present m := by
  rw [← String.toList_inj, eq_comm]
  unfold Encoder.slots
  rw [String.toList_ofList]

theorem decodeReference?_documentTerm :
    decodeReference? ((Encoder.slots field).documentTerm n m).text = some (n, m) :=
  decodeReference?_eq_some_iff.mpr (text_documentTerm_eq_iff.mp rfl)

/-- No two references have the same term. -/
theorem documentTerm_inj : (Encoder.slots field).documentTerm n m =
    (Encoder.slots field).documentTerm n' m' ↔ n = n' ∧ m = m' := by
  refine ⟨fun h => ?_, fun h => by rw [h.1, h.2]⟩
  have hdecode : some (n, m) = some (n', m') := calc
    some (n, m)
    _ = decodeReference? ((Encoder.slots field).documentTerm n m).text :=
        decodeReference?_documentTerm.symm
    _ = decodeReference? ((Encoder.slots field).documentTerm n' m').text := by rw [h]
    _ = some (n', m') := decodeReference?_documentTerm
  exact Prod.mk.inj (Option.some.inj hdecode)

/-- What does not decode is no name followed by six slots. -/
theorem decodeReference?_eq_none_iff {text : String} :
    decodeReference? text = none ↔ ¬ ∃ (n : String) (s : List Char),
      s.length = 6 ∧ (∀ c ∈ s, c = '+' ∨ c = '-') ∧ text.toList = n.toList ++ s := by
  rw [← not_iff_not, not_not, ← ne_eq, Option.ne_none_iff_exists']
  constructor
  · rintro ⟨⟨n, m⟩, h⟩
    exact ⟨n, Slots.present m, Slots.length_present m,
      fun c hc => Slots.isSlot_iff.mp (Slots.isSlot_of_mem_present hc),
      decodeReference?_eq_some_iff.mp h⟩
  · rintro ⟨n, s, hlength, hslots, htext⟩
    obtain ⟨m, rfl⟩ := Slots.exists_eq_present hlength
      fun c hc => Slots.isSlot_iff.mpr (hslots c hc)
    exact ⟨(n, m), decodeReference?_eq_some_iff.mpr htext⟩

/-- **Encoding and decoding undo each other.** The term of a name and a mask decodes to them, and
what decodes to a name and a mask is the text of their term. The texts that do not decode are those
that are no name followed by six slots. No two references have the same term, and it makes no
difference whether the slots are told in bytes or in characters. -/
theorem decodeReference_inverts_documentTerm (field : String) :
    (∀ n m, decodeReference? ((Encoder.slots field).documentTerm n m).text = some (n, m)) ∧
      (∀ text n m, decodeReference? text = some (n, m) ↔
        ((Encoder.slots field).documentTerm n m).text = text) ∧
      (∀ text, decodeReference? text = none ↔ ¬ ∃ (n : String) (s : List Char),
        s.length = 6 ∧ (∀ c ∈ s, c = '+' ∨ c = '-') ∧ text.toList = n.toList ++ s) ∧
      (∀ n m n' m', (Encoder.slots field).documentTerm n m =
        (Encoder.slots field).documentTerm n' m' ↔ n = n' ∧ m = m') ∧
      ∀ text, decodeBySlices? text = decodeReference? text :=
  ⟨fun _ _ => decodeReference?_documentTerm,
    fun _ _ _ => decodeReference?_eq_some_iff.trans text_documentTerm_eq_iff.symm,
    fun _ => decodeReference?_eq_none_iff,
    fun _ _ _ _ => documentTerm_inj,
    fun _ => Option.ext fun _ =>
      decodeBySlices?_eq_some_iff.trans decodeReference?_eq_some_iff.symm⟩

end UsageIndex
