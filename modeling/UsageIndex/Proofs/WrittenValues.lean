import UsageIndex.Json.Printer

/-!
# Written values

A value is written without blanks or over several lines, and it reads back from both. A record is
written as an object; some of its members may be left out, and if it is closed then no others may be
added.

* **`Json.parse?_pretty`**, **`Json.parse?_write`**: what is written reads back.
* **`Json.fields?_of_known`**: the members of known names are the fields of a record.
  **`Json.fields?_of_unknown`**: a closed record has no others.
* **`Json.Record.textOr?_of_sublist`**: a field that is left out has its standard text.
-/

namespace UsageIndex.Json

/-! ## Values over several lines -/

theorem tokens?_space {c : Char} (h : isSpace c = true) (cs : List Char) :
    tokens? (c :: cs) = tokens? cs := by
  rw [tokens?, if_pos h]

/-- A line break and the blanks behind it are passed over. -/
theorem tokens?_newLine (level : Nat) (rest : List Char) :
    tokens? (newLine level ++ rest) = tokens? rest := by
  unfold newLine
  rw [List.cons_append, tokens?_space (by decide)]
  induction 2 * level with
  | zero => rfl
  | succ n ih => rw [List.replicate_succ, List.cons_append, tokens?_space (by decide), ih]

theorem tokens?_layoutName {k : List Char} (h : Spelled k) (rest : List Char) :
    tokens? (layoutName k ++ rest) = (tokens? rest).map fun ts => .string k :: .colon :: ts := by
  have hname : layoutName k ++ rest =
      (Token.string k).spelled ++ (Token.colon.spelled ++ ' ' :: rest) := by
    simp [layoutName, Token.spelled]
  rw [hname, tokens?_spelled_append (t := .string k) h trivial,
    tokens?_spelled_append (t := .colon) trivial trivial, tokens?_space (by decide),
    Option.map_map]
  rfl

theorem endsNumber_layoutItems (level : Nat) (js : List Json) (rest : List Char) :
    EndsNumber (layoutItems level js ++ rest) := by
  cases js <;> exact endsNumber_cons rfl

theorem endsNumber_layoutMembers (level : Nat) (ms : List (List Char × Json)) (rest : List Char) :
    EndsNumber (layoutMembers level ms ++ rest) := by
  cases ms <;> exact endsNumber_cons rfl

mutual

/-- The tokens of a value are read back from what is written over several lines. -/
theorem tokens?_layout : ∀ (j : Json) (level : Nat) (rest : List Char), j.Writable →
    EndsNumber rest → tokens? (layout level j ++ rest) = (tokens? rest).map (j.tokens ++ ·)
  | .null, _, rest, hw, hr => tokens?_spelledAll .null rest hw hr
  | .bool b, _, rest, hw, hr => tokens?_spelledAll (.bool b) rest hw hr
  | .number literal, _, rest, hw, hr => tokens?_spelledAll (.number literal) rest hw hr
  | .string spelling, _, rest, hw, hr => tokens?_spelledAll (.string spelling) rest hw hr
  | .array [], _, rest, hw, hr => tokens?_spelledAll (.array []) rest hw hr
  | .array (j :: js), level, rest, hw, hr => by
    have hlayout : layout level (.array (j :: js)) ++ rest = Token.openArray.spelled ++
        (newLine (level + 1) ++ (layout (level + 1) j ++ (layoutItems level js ++ rest))) := by
      simp [layout, Token.spelled]
    rw [hlayout, tokens?_spelled_append (t := .openArray) trivial trivial, tokens?_newLine,
      tokens?_layout j _ _ hw.1 (endsNumber_layoutItems level js rest),
      tokens?_layoutItems js level rest hw.2 hr, Option.map_map, Option.map_map]
    simp [Function.comp_def, tokens]
  | .object [], _, rest, hw, hr => tokens?_spelledAll (.object []) rest hw hr
  | .object ((k, j) :: ms), level, rest, hw, hr => by
    have hlayout : layout level (.object ((k, j) :: ms)) ++ rest = Token.openObject.spelled ++
        (newLine (level + 1) ++ (layoutName k ++
          (layout (level + 1) j ++ (layoutMembers level ms ++ rest)))) := by
      simp [layout, Token.spelled]
    rw [hlayout, tokens?_spelled_append (t := .openObject) trivial trivial, tokens?_newLine,
      tokens?_layoutName hw.1, tokens?_layout j _ _ hw.2.1 (endsNumber_layoutMembers level ms rest),
      tokens?_layoutMembers ms level rest hw.2.2 hr, Option.map_map, Option.map_map, Option.map_map]
    simp [Function.comp_def, tokens]

/-- The tokens of further items are read back from what is written over several lines. -/
theorem tokens?_layoutItems : ∀ (js : List Json) (level : Nat) (rest : List Char),
    WritableItems js → EndsNumber rest →
    tokens? (layoutItems level js ++ rest) = (tokens? rest).map (furtherItems js ++ ·)
  | [], level, rest, _, _ => by
    have hlayout : layoutItems level [] ++ rest =
        newLine level ++ (Token.closeArray.spelled ++ rest) := by
      simp [layoutItems, Token.spelled]
    rw [hlayout, tokens?_newLine, tokens?_spelled_append (t := .closeArray) trivial trivial]
    rfl
  | j :: js, level, rest, hw, hr => by
    have hlayout : layoutItems level (j :: js) ++ rest = Token.comma.spelled ++
        (newLine (level + 1) ++ (layout (level + 1) j ++ (layoutItems level js ++ rest))) := by
      simp [layoutItems, Token.spelled]
    rw [hlayout, tokens?_spelled_append (t := .comma) trivial trivial, tokens?_newLine,
      tokens?_layout j _ _ hw.1 (endsNumber_layoutItems level js rest),
      tokens?_layoutItems js level rest hw.2 hr, Option.map_map, Option.map_map]
    simp [Function.comp_def, furtherItems]

/-- The tokens of further members are read back from what is written over several lines. -/
theorem tokens?_layoutMembers : ∀ (ms : List (List Char × Json)) (level : Nat) (rest : List Char),
    WritableMembers ms → EndsNumber rest →
    tokens? (layoutMembers level ms ++ rest) = (tokens? rest).map (furtherMembers ms ++ ·)
  | [], level, rest, _, _ => by
    have hlayout : layoutMembers level [] ++ rest =
        newLine level ++ (Token.closeObject.spelled ++ rest) := by
      simp [layoutMembers, Token.spelled]
    rw [hlayout, tokens?_newLine, tokens?_spelled_append (t := .closeObject) trivial trivial]
    rfl
  | (k, j) :: ms, level, rest, hw, hr => by
    have hlayout : layoutMembers level ((k, j) :: ms) ++ rest = Token.comma.spelled ++
        (newLine (level + 1) ++ (layoutName k ++
          (layout (level + 1) j ++ (layoutMembers level ms ++ rest)))) := by
      simp [layoutMembers, Token.spelled]
    rw [hlayout, tokens?_spelled_append (t := .comma) trivial trivial, tokens?_newLine,
      tokens?_layoutName hw.1, tokens?_layout j _ _ hw.2.1 (endsNumber_layoutMembers level ms rest),
      tokens?_layoutMembers ms level rest hw.2.2 hr, Option.map_map, Option.map_map, Option.map_map]
    simp [Function.comp_def, furtherMembers]

end

/-- **What is written over several lines reads back.** -/
theorem parse?_pretty {j : Json} (h : j.Writable) : parse? j.pretty = some j := by
  have ht := tokens?_layout j 0 [] h (by simp [EndsNumber])
  rw [List.append_nil, tokens?_nil] at ht
  rw [parse?, pretty, String.toList_ofList, ht]
  simp [ofTokens?_tokens]

/-- How a value is written. -/
inductive Style where
  /-- Without blanks. -/
  | compact
  /-- Over several lines. -/
  | pretty

/-- A value, written in a style. -/
def write (style : Style) (j : Json) : String :=
  match style with
  | .compact => j.compact
  | .pretty => j.pretty

/-- **What is written reads back**, in whatever style. -/
theorem parse?_write (style : Style) {j : Json} (h : j.Writable) :
    parse? (j.write style) = some j := by
  cases style with
  | compact => exact parse?_compact h
  | pretty => exact parse?_pretty h

/-! ## Records -/

variable {names : List String} {ms ns : List (String × Json)}

/-- The members of known names are the fields of a record. -/
theorem fields?_of_known (h : ∀ m ∈ ms, m.1 ∈ names) (hnodup : (ms.map Prod.fst).Nodup)
    (closed : Bool) : fields? names closed ms = some ⟨ms⟩ := by
  have hknown : (ms.filter fun m => decide (m.1 ∈ names)) = ms :=
    List.filter_eq_self.mpr fun m hm => decide_eq_true (h m hm)
  unfold fields?
  simp [hknown, hnodup]

/-- A closed record has no fields but those of known names. -/
theorem fields?_of_unknown {name : String} (hmem : name ∈ ms.map Prod.fst) (h : name ∉ names) :
    fields? names true ms = none := by
  have hfewer : (ms.filter fun m => decide (m.1 ∈ names)).length ≠ ms.length := by
    rw [ne_eq, List.length_filter_eq_length_iff]
    intro hall
    obtain ⟨m, hm, rfl⟩ := List.mem_map.mp hmem
    exact h (of_decide_eq_true (hall m hm))
  unfold fields?
  simp only [hfewer, ne_eq, not_false_eq_true, and_self, if_true]

theorem mem_of_decodeNames? {raw : List (List Char × Json)} (h : decodeNames? raw = some ms)
    {k : List Char} (hk : k ∈ raw.map Prod.fst) :
    ∃ name, decodeText? k = some name ∧ name ∈ ms.map Prod.fst := by
  induction raw generalizing ms with
  | nil => cases hk
  | cons m raw ih =>
    obtain ⟨k', j⟩ := m
    rw [decodeNames?] at h
    split at h
    · rename_i name rest hname hrest
      cases h
      rcases List.mem_cons.mp hk with rfl | hk
      · exact ⟨name, hname, List.mem_cons_self⟩
      · obtain ⟨name', hname', hmem⟩ := ih hrest hk
        exact ⟨name', hname', List.mem_cons_of_mem _ hmem⟩
    · cases h

/-- Some member of an object has none of some names, in whatever way its name is spelled. -/
def HasOther (names : List String) (raw : List (List Char × Json)) : Prop :=
  ∃ k ∈ raw.map Prod.fst, ∀ name, decodeText? k = some name → name ∉ names

/-- **Unknown members.** An object with a member of another name is no closed record. -/
theorem record?_of_hasOther {raw : List (List Char × Json)} (h : HasOther names raw) :
    (object raw).record? names true = none := by
  obtain ⟨k, hk, hother⟩ := h
  rw [record?, Option.bind_eq_none_iff]
  intro ms hms
  obtain ⟨name, hname, hmem⟩ := mem_of_decodeNames? hms hk
  exact fields?_of_unknown hmem (hother name hname)

/-! ## Members that are left out -/

theorem lookup_of_mem {name : String} {j : Json} (hnodup : (ms.map Prod.fst).Nodup)
    (h : (name, j) ∈ ms) : ms.lookup name = some j := by
  obtain ⟨before, after, rfl⟩ := List.append_of_mem h
  rw [List.map_append, List.map_cons, List.nodup_append] at hnodup
  refine List.lookup_eq_some_iff.mpr ⟨before, after, rfl, fun m hm => ?_⟩
  have hne : m.1 ≠ name := hnodup.2.2 m.1 (List.mem_map_of_mem hm) name List.mem_cons_self
  simpa using hne.symm

/-- Members that are left out are not found; the others are. -/
theorem lookup_of_sublist (h : ms.Sublist ns) (hnodup : (ns.map Prod.fst).Nodup) (name : String) :
    ms.lookup name = if name ∈ ms.map Prod.fst then ns.lookup name else none := by
  by_cases hname : name ∈ ms.map Prod.fst
  · rw [if_pos hname]
    obtain ⟨⟨_, j⟩, hm, rfl⟩ := List.mem_map.mp hname
    rw [lookup_of_mem (hnodup.sublist (h.map _)) hm, lookup_of_mem hnodup (h.subset hm)]
  · rw [if_neg hname, List.lookup_eq_none_iff]
    intro m hm
    have hne : m.1 ≠ name := fun e => hname (e ▸ List.mem_map_of_mem hm)
    simpa using hne.symm

/-- Some members of a record are its fields. -/
theorem record?_of_sublist (h : ms.Sublist ns) (hnodup : (ns.map Prod.fst).Nodup)
    (closed : Bool) : (ofMembers ms).record? (ns.map Prod.fst) closed = some ⟨ms⟩ := by
  rw [record?_ofMembers]
  have hknown : ∀ m ∈ ms, m.1 ∈ ns.map Prod.fst := fun m hm =>
    List.mem_map_of_mem (h.subset hm)
  exact fields?_of_known hknown (hnodup.sublist (h.map _)) closed

/-- **A field that is left out** has its standard text. -/
theorem Record.textOr?_of_sublist {name t : String} (h : ms.Sublist ns)
    (hnodup : (ns.map Prod.fst).Nodup) (ht : ns.lookup name = some (ofText t)) (standard : String) :
    Record.textOr? ⟨ms⟩ name standard =
      some (if name ∈ ms.map Prod.fst then t else standard) := by
  have hlookup := lookup_of_sublist h hnodup name
  unfold textOr? get?
  simp only
  by_cases hname : name ∈ ms.map Prod.fst
  · rw [hlookup, if_pos hname, if_pos hname, ht]
    exact text?_ofText t
  · rw [hlookup, if_neg hname, if_neg hname]

end UsageIndex.Json
