import UsageIndex.Options.Json
import UsageIndex.Proofs.WrittenValues

/-!
# Written options

Options that are written read back if they are valid, and are refused as they are refused otherwise.
A name that is left out of what is written has its standard value, whatever else is left out with
it, and nothing may be added.

* **`IndexFields.ofJson?_of_sublist`**: the names of an object from which some are left out.
* **`SessionOptions.read_of_ofJson?`**, **`SessionOptions.read_of_refused`**: what a text that was
  written reads as.
* **`SessionOptions.read_written`**: all of it, for texts in either style.
-/

namespace UsageIndex

open UsageIndex.Json (HasOther Style)

namespace IndexFields

/-- The members of the value of index fields. -/
def members (f : IndexFields) : List (String × Json) :=
  [("references", .ofText f.references), ("packageName", .ofText f.packageName),
    ("referencesCaseInsensitive", .ofText f.referencesCaseless)]

/-- Some of the names of index fields, and the standard ones for the others. -/
def only (f : IndexFields) (names : List String) : IndexFields where
  references := if "references" ∈ names then f.references else standard.references
  packageName := if "packageName" ∈ names then f.packageName else standard.packageName
  referencesCaseless :=
    if "referencesCaseInsensitive" ∈ names then f.referencesCaseless
    else standard.referencesCaseless

variable {f : IndexFields} {ms : List (String × Json)}

theorem map_fst_members (f : IndexFields) : f.members.map Prod.fst = memberNames := rfl

/-- **Names that are left out** are the standard ones. -/
theorem ofJson?_of_sublist (h : ms.Sublist f.members) :
    ofJson? (.ofMembers ms) = some (f.only (ms.map Prod.fst)) := by
  have hnodup : (f.members.map Prod.fst).Nodup := by
    rw [map_fst_members]
    decide
  unfold ofJson?
  rw [← map_fst_members f, Json.record?_of_sublist h hnodup]
  simp only [Option.pure_def, Option.bind_eq_bind, Option.bind_some]
  rw [Json.Record.textOr?_of_sublist (t := f.references) h hnodup rfl, Option.bind_some,
    Json.Record.textOr?_of_sublist (t := f.packageName) h hnodup rfl, Option.bind_some,
    Json.Record.textOr?_of_sublist (t := f.referencesCaseless) h hnodup rfl, Option.bind_some]
  rfl

theorem writable_of_sublist (h : ms.Sublist f.members) : (Json.ofMembers ms).Writable :=
  Json.writable_ofMembers fun m hm => by
    have hall : ∀ m ∈ f.members, m.2.Writable := by simp [members]
    exact hall m (h.subset hm)

theorem ofJson?_of_hasOther {raw : List (List Char × Json)} (h : HasOther memberNames raw) :
    ofJson? (.object raw) = none := by
  unfold ofJson?
  rw [Json.record?_of_hasOther h]
  rfl

end IndexFields

namespace SessionOptions

/-- Options if they are valid, and else what is reported of them. -/
def validated (o : SessionOptions) : Except Error SessionOptions :=
  match o.validate with
  | .ok () => .ok o
  | .error e => .error e

variable {o o' : SessionOptions} {j : Json} {s : String} {e : Error}

theorem validated_eq_ok_iff : o.validated = .ok o' ↔ o.validate = .ok () ∧ o' = o := by
  unfold validated
  cases o.validate with
  | ok u => simp [eq_comm]
  | error e => simp

/-- Options that are not valid are an invalid argument. -/
theorem invalidArgument_of_validated (h : o.validated = .error e) :
    ∃ name condition, e = .invalidArgument name condition := by
  have hverify : ∀ {holds : Bool} {name condition : String} {x : Except Error Unit},
      (∀ e, x = .error e → ∃ name condition, e = .invalidArgument name condition) →
      ∀ e, (do verifyArgument holds name condition; x) = .error e →
        ∃ name condition, e = .invalidArgument name condition := by
    intro holds name condition x hx e he
    cases holds with
    | true => exact hx e he
    | false =>
      cases he
      exact ⟨name, condition, rfl⟩
  have hvalidate : o.validate = .error e := by
    unfold validated at h
    cases ho : o.validate with
    | ok u => simp [ho] at h
    | error e' => simpa [ho] using h
  refine hverify (hverify (hverify fun e he => ?_)) e hvalidate
  unfold verifyArgument at he
  split at he
  · cases he
  · cases he
    exact ⟨_, _, rfl⟩

/-! ## Texts -/

/-- A text of options reads as these, if they are valid. -/
theorem read_of_ofJson? (hparse : Json.parse? s = some j) (h : ofJson? j = some o) :
    read s = o.validated := by
  unfold read
  rw [hparse, Option.bind_some, h]
  rfl

/-- A text that has no options is not of the form that it must have. -/
theorem read_of_refused (hparse : Json.parse? s = some j) (h : ofJson? j = none) :
    ∃ message, read s = .error (.invalidFormat "session options" message) := by
  refine ⟨"the text does not describe options", ?_⟩
  unfold read
  rw [hparse, Option.bind_some, h]

/-- What a text reads as is valid. -/
theorem validate_of_read (h : read s = .ok o) : o.validate = .ok () := by
  unfold read at h
  split at h
  · cases h
  · rename_i o' _
    have hvalidated : o'.validated = .ok o := h
    obtain ⟨hvalid, rfl⟩ := validated_eq_ok_iff.mp hvalidated
    exact hvalid

/-! ## Objects -/

/-- Options as an object, in place of whose fields another value stands. -/
def objectOf (fields : Json) : Json := .ofMembers [("fields", fields)]

theorem writable_objectOf {fields : Json} (h : fields.Writable) : (objectOf fields).Writable :=
  Json.writable_ofMembers (by simpa using h)

theorem ofJson?_objectOf (fields : Json) :
    ofJson? (objectOf fields) = (IndexFields.ofJson? fields).map SessionOptions.mk := by
  have hrecord : (objectOf fields).record? ["fields"] true = some ⟨[("fields", fields)]⟩ := by
    simp [objectOf, Json.fields?]
  have hfields : Json.Record.get? ⟨[("fields", fields)]⟩ "fields" = some fields := rfl
  unfold ofJson?
  rw [hrecord]
  simp only [Option.pure_def, Option.bind_eq_bind, Option.bind_some, hfields]
  cases IndexFields.ofJson? fields <;> rfl

theorem ofJson?_of_hasOther {raw : List (List Char × Json)} (h : HasOther ["fields"] raw) :
    ofJson? (.object raw) = none := by
  unfold ofJson?
  rw [Json.record?_of_hasOther h]
  rfl

/-- **Written options read back**, in whatever style they are written: if they are valid, and else
they are refused as an invalid argument. If some of the names are left out, or all fields, the
standard ones take their place; the result has to be valid too. An object with a member of another
name, among the fields or beside them, does not have the form of options. What is read is valid. -/
theorem read_written (style : Style) :
    (∀ o : SessionOptions, read (o.toJson.write style) = o.validated) ∧
    (∀ (o : SessionOptions) e, o.validated = .error e →
      ∃ name condition, e = .invalidArgument name condition) ∧
    (∀ (f : IndexFields) ms, ms.Sublist f.members →
      read ((objectOf (.ofMembers ms)).write style) =
        (SessionOptions.mk (f.only (ms.map Prod.fst))).validated) ∧
    read ((Json.ofMembers []).write style) = .ok standard ∧
    (∀ raw, (Json.object raw).Writable → HasOther IndexFields.memberNames raw →
      ∃ message, read ((objectOf (.object raw)).write style) =
        .error (.invalidFormat "session options" message)) ∧
    (∀ raw, (Json.object raw).Writable → HasOther ["fields"] raw →
      ∃ message, read ((Json.object raw).write style) =
        .error (.invalidFormat "session options" message)) ∧
    ∀ s o, read s = .ok o → o.fields.references ≠ "" ∧ o.fields.packageName ≠ "" ∧
      o.fields.referencesCaseless ≠ "" ∧ o.fields.references ≠ o.fields.packageName := by
  refine ⟨fun o => ?_, fun o e => invalidArgument_of_validated, fun f ms h => ?_, ?_,
    fun raw hw h => ?_, fun raw hw h => ?_, fun s o h => ?_⟩
  · exact read_of_ofJson? (Json.parse?_write style o.writable_toJson) o.ofJson?_toJson
  · refine read_of_ofJson? (Json.parse?_write style (writable_objectOf ?_)) ?_
    · exact IndexFields.writable_of_sublist h
    · rw [ofJson?_objectOf, IndexFields.ofJson?_of_sublist h]
      rfl
  · have hw : (Json.ofMembers []).Writable := Json.writable_ofMembers nofun
    exact read_of_ofJson? (Json.parse?_write style hw) rfl
  · refine read_of_refused (Json.parse?_write style (writable_objectOf hw)) ?_
    rw [ofJson?_objectOf, IndexFields.ofJson?_of_hasOther h]
    rfl
  · exact read_of_refused (Json.parse?_write style hw) (ofJson?_of_hasOther h)
  · exact (validate_eq_ok_iff o).mp (validate_of_read h)

/-- Of five texts, the first leaves out two names, the second is not valid once they are left out,
the third has an empty name, and the last two have a member more. -/
theorem read_written_packageName :
    read ((objectOf (.ofMembers [("packageName", .ofText "a\n\"")])).write .pretty) =
      .ok ⟨⟨"references", "a\n\"", "referencesCaseInsensitive"⟩⟩ ∧
    (∃ name condition,
      read ((objectOf (.ofMembers [("packageName", .ofText "references")])).write .compact) =
        .error (.invalidArgument name condition)) ∧
    read ((SessionOptions.mk ⟨"r", "", "c"⟩).toJson.write .compact) =
      .error (.invalidArgument "package_name" "!fields.package_name.is_empty()") ∧
    (∃ message, read ((objectOf (.ofMembers
        [("packageName", .ofText "p"), ("package_name", .null)])).write .compact) =
      .error (.invalidFormat "session options" message)) ∧
    ∃ message, read ((Json.ofMembers
        [("fields", IndexFields.standard.toJson), ("references", .ofText "r")]).write .pretty) =
      .error (.invalidFormat "session options" message) := by
  obtain ⟨-, -, hpretty, -, -, hbeside, -⟩ := read_written .pretty
  obtain ⟨hwritten, hinvalid, hcompact, -, hamong, -⟩ := read_written .compact
  refine ⟨?_, ?_, hwritten _, ?_, ?_⟩
  · have hsublist : [("packageName", Json.ofText "a\n\"")].Sublist
        (IndexFields.mk "r" "a\n\"" "c").members := .cons _ (.cons_cons _ (List.nil_sublist _))
    rw [hpretty _ _ hsublist]
    rfl
  · have hsublist : [("packageName", Json.ofText "references")].Sublist
        (IndexFields.mk "r" "references" "c").members := .cons _ (.cons_cons _ (List.nil_sublist _))
    rw [hcompact _ _ hsublist]
    obtain ⟨name, condition, he⟩ := hinvalid
      ((IndexFields.mk "r" "references" "c").only ["packageName"] |> SessionOptions.mk) _ rfl
    exact ⟨name, condition, congrArg Except.error he⟩
  · refine hamong _ ?_ ⟨_, .tail _ (.head _), fun name hname => ?_⟩
    · exact Json.writable_ofMembers (by simp [Json.Writable])
    · rw [Json.decodeText?_encode, Option.some.injEq] at hname
      rw [← hname]
      decide
  · refine hbeside _ ?_ ⟨_, .tail _ (.head _), fun name hname => ?_⟩
    · exact Json.writable_ofMembers (by simp [IndexFields.writable_toJson])
    · rw [Json.decodeText?_encode, Option.some.injEq] at hname
      rw [← hname]
      decide

end SessionOptions

end UsageIndex
