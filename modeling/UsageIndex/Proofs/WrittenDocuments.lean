import UsageIndex.Document.Json
import UsageIndex.Proofs.WrittenValues
import UsageIndex.Term.Json

/-!
# Written documents

A document that is written reads back as it was: its names may be any texts, and a name without
kinds is kept. So it carries the same terms, whatever encodes them. Terms read back as well.

* **`UsageDocument.referencesOfJson?_entries`**: references read back.
* **`UsageDocument.ofJson?_of_sublist`**: a document from whose object some members are left out.
* **`UsageDocument.written_reads_back`**: all of it, for texts in either style.
-/

namespace UsageIndex

open UsageIndex.Json (Style)

/-! ## References -/

/-- The kinds of a mask are those of which it is made. -/
theorem UsageMask.ofList_kinds (m : UsageMask) : UsageMask.ofList m.kinds = m :=
  UsageMask.ext fun k => by simp

theorem UsageKind.ofJson?_toJson (isNothing : Json → Bool) (k : UsageKind) :
    UsageKind.ofJson? isNothing k.toJson = some k := by
  have htext : UsageKind.ofJson? isNothing k.toJson =
      (Json.decodeText? (Json.encode k.name.toList)).bind UsageKind.ofName? := rfl
  rw [htext, Json.decodeText?_encode, Option.bind_some, UsageKind.ofName?_name]

theorem UsageKind.mapM_ofJson?_toJson (isNothing : Json → Bool) (ks : List UsageKind) :
    (ks.map UsageKind.toJson).mapM (UsageKind.ofJson? isNothing) = some ks := by
  induction ks with
  | nil => rfl
  | cons k ks ih =>
    rw [List.map_cons, List.mapM_cons, UsageKind.ofJson?_toJson, ih]
    rfl

namespace UsageDocument

variable {d : UsageDocument} {isNothing : Json → Bool} {ms : List (String × Json)}

/-- The value of a mask. -/
def maskJson (m : UsageMask) : Json := .array (m.kinds.map UsageKind.toJson)

theorem kindsOfJson?_maskJson (m : UsageMask) : kindsOfJson? isNothing (maskJson m) = some m := by
  have hitems : (maskJson m).items? = some (m.kinds.map UsageKind.toJson) := rfl
  unfold kindsOfJson?
  rw [hitems, Option.bind_some, UsageKind.mapM_ofJson?_toJson, Option.map_some,
    UsageMask.ofList_kinds]

theorem addEntries?_map (es : List (String × UsageMask)) (refs : OrderedMap String UsageMask) :
    addEntries? isNothing refs (es.map fun e => (e.1, maskJson e.2)) =
      some (es.foldl (fun m e => m.insert e.1 e.2) refs) := by
  induction es generalizing refs with
  | nil => rfl
  | cons e es ih =>
    rw [List.map_cons, addEntries?, kindsOfJson?_maskJson]
    exact ih _

/-- The members of the value of references. -/
def entriesJson (refs : OrderedMap String UsageMask) : Json :=
  .ofMembers (refs.entries.map fun e => (e.1, maskJson e.2))

/-- **References read back.** -/
theorem referencesOfJson?_entries (refs : OrderedMap String UsageMask) :
    referencesOfJson? isNothing (entriesJson refs) = some refs := by
  unfold referencesOfJson? entriesJson
  rw [Json.members?_ofMembers, Option.bind_some, addEntries?_map,
    OrderedMap.foldl_insert_entries]

theorem writable_maskJson (m : UsageMask) : (maskJson m).Writable :=
  Json.writable_array fun j hj => by
    obtain ⟨k, -, rfl⟩ := List.mem_map.mp hj
    exact Json.writable_ofText k.name

theorem writable_entriesJson (refs : OrderedMap String UsageMask) :
    (entriesJson refs).Writable :=
  Json.writable_ofMembers fun m hm => by
    obtain ⟨e, -, rfl⟩ := List.mem_map.mp hm
    exact writable_maskJson e.2

/-! ## Documents -/

/-- The members of the value of a document. -/
def members (d : UsageDocument) : List (String × Json) :=
  [("package", .ofText d.package), ("references", entriesJson d.references)]

/-- Some of what a document has, the unnamed package if its package is left out and no references if
they are. -/
def only (d : UsageDocument) (names : List String) : UsageDocument where
  package := if "package" ∈ names then d.package else ""
  references := if "references" ∈ names then d.references else OrderedMap.empty

theorem toJson_eq (d : UsageDocument) : d.toJson = .ofMembers d.members := rfl

theorem map_fst_members (d : UsageDocument) : d.members.map Prod.fst = memberNames := rfl

theorem only_memberNames (d : UsageDocument) : d.only memberNames = d := rfl

/-- **Members that are left out** of a document. -/
theorem ofJson?_of_sublist (h : ms.Sublist d.members) :
    ofJson? (.ofMembers ms) = some (d.only (ms.map Prod.fst)) := by
  have hnodup : (d.members.map Prod.fst).Nodup := by
    rw [map_fst_members]
    decide
  have hreferences : Json.Record.get? ⟨ms⟩ "references" =
      if "references" ∈ ms.map Prod.fst then some (entriesJson d.references) else none :=
    Json.lookup_of_sublist h hnodup "references"
  unfold ofJson? only
  rw [← map_fst_members d, Json.record?_of_sublist h hnodup, Option.bind_some]
  unfold ofRecord?
  rw [Json.Record.textOr?_of_sublist (t := d.package) h hnodup rfl]
  simp only [Option.bind_eq_bind, Option.bind_some, hreferences]
  by_cases hname : "references" ∈ ms.map Prod.fst
  · simp only [if_pos hname, referencesOfJson?_entries, Option.bind_some, Option.pure_def]
  · simp only [if_neg hname, Option.pure_def]
    rfl

theorem writable_of_sublist (h : ms.Sublist d.members) : (Json.ofMembers ms).Writable :=
  Json.writable_ofMembers fun m hm => by
    have hall : ∀ m ∈ d.members, m.2.Writable := by
      simp [members, writable_entriesJson]
    exact hall m (h.subset hm)

theorem parse?_of_sublist (h : ms.Sublist d.members) (style : Style) :
    parse? ((Json.ofMembers ms).write style) = some (d.only (ms.map Prod.fst)) := by
  unfold parse?
  rw [Json.parse?_write style (writable_of_sublist h), Option.bind_some, ofJson?_of_sublist h]

/-- **Written documents and terms read back**, in whatever style they are written: a document with
its package and all its names, with the kinds of each, and hence with the same terms, and a term
with its field and its text. What is left out of a document is not there when it is read. -/
theorem written_reads_back (style : Style) :
    (∀ d : UsageDocument, parse? (d.toJson.write style) = some d ∧
      ∀ (e : Encoder) packageField,
        (parse? (d.toJson.write style)).map (fun d' => d'.terms e packageField) =
          some (d.terms e packageField)) ∧
    (∀ t : Term, Term.parse? (t.toJson.write style) = some t) ∧
    ∀ (d : UsageDocument) ms, ms.Sublist d.members →
      parse? ((Json.ofMembers ms).write style) = some (d.only (ms.map Prod.fst)) := by
  have hdocument : ∀ d : UsageDocument, parse? (d.toJson.write style) = some d := fun d => by
    rw [toJson_eq, parse?_of_sublist (List.Sublist.refl d.members) style, map_fst_members,
      only_memberNames]
  refine ⟨fun d => ⟨hdocument d, fun e packageField => ?_⟩, fun t => ?_,
    fun d ms h => parse?_of_sublist h style⟩
  · rw [hdocument d, Option.map_some]
  · unfold Term.parse?
    rw [Json.parse?_write style t.writable_toJson, Option.bind_some, Term.ofJson?_toJson]

/-- A document whose names have to be escaped, one of them without kinds, and what is left of it
without its package. -/
theorem written_reads_back_escaped :
    let d := ((UsageDocument.new "p\u0001").addReference "a\"\\" [.superClass]).addReference "" []
    parse? (d.toJson.write .pretty) = some d ∧
      parse? ((Json.ofMembers [("references", entriesJson d.references)]).write .compact) =
        some { d with package := "" } := by
  intro d
  obtain ⟨hdocument, -, -⟩ := written_reads_back .pretty
  obtain ⟨-, -, hpart⟩ := written_reads_back .compact
  exact ⟨(hdocument d).1, hpart d _ (.cons _ (List.Sublist.refl _))⟩

end UsageDocument

end UsageIndex
