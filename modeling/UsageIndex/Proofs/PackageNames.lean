import UsageIndex.Proofs.Dictionary
import UsageIndex.Proofs.Slices

/-!
# The package names of a segment in memory

The names are read off the dictionary from the leading text on, and the walk ends at the first term
of another field. The terms of a field stand together, and none that begins with the leading text
stands below it, so that no name is missed.

* **`mem_walkTerms`**: what a walk yields.
* **`PackageNames.Cut`**: what is left of a text that is cut to the first level below the leading
  text. **`PackageNames.cut_iff`**: the names are cut like that.
* **`MemorySegment.packageNames_exact`**: which package names a segment in memory has.
-/

namespace UsageIndex

/-! ## Walks -/

/-- A walk yields the values of the terms before the first at which it stops. -/
theorem mem_walkTerms {α : Type} {f : Term → TermStep α} {P : Term → Prop} [DecidablePred P]
    (hstop : ∀ t, f t = .stop ↔ ¬ P t) {ts : List Term} {a : α} :
    a ∈ walkTerms f ts ↔ ∃ t ∈ ts.takeWhile (fun t => decide (P t)), f t = .produce a := by
  induction ts with
  | nil => simp [walkTerms_nil]
  | cons t ts ih =>
    rw [walkTerms_cons]
    by_cases ht : P t
    · rw [List.takeWhile_cons_of_pos (by simpa using ht)]
      simp only [List.mem_cons, exists_eq_or_imp]
      cases hf : f t with
      | produce b => rw [List.mem_cons, ih, TermStep.produce.injEq, eq_comm]
      | skip => simp only [ih, reduceCtorEq, false_or]
      | stop => exact absurd ht ((hstop t).mp hf)
    · rw [List.takeWhile_cons_of_neg (by simpa using ht), (hstop t).mpr ht]
      simp

namespace PackageNames

variable {p : PackageNames} {t : Term} {name text : String}

theorem classify_eq_stop_iff : p.classify t = .stop ↔ ¬ t.field = p.field := by
  unfold classify
  by_cases hf : t.field = p.field
  · by_cases hs : Text.startsWith t.text p.leading = true
    · simp [hf, hs]
    · simp [hf, hs]
  · simp [hf]

theorem classify_eq_produce_iff : p.classify t = .produce name ↔
    t.field = p.field ∧ Text.startsWith t.text p.leading = true ∧ p.nameOf t.text = name := by
  unfold classify
  by_cases hf : t.field = p.field
  · by_cases hs : Text.startsWith t.text p.leading = true
    · simp [hf, hs]
    · simp [hf, hs]
  · simp [hf]

/-! ## Cut texts -/

/-- `Cut leading text name`: of a text that begins with `leading`, the name is what stands before
the first dot that has at least one character between it and `leading`; if there is no such dot, it
is the whole text. -/
inductive Cut (leading : List Char) : List Char → List Char → Prop where
  | leading : Cut leading leading leading
  | whole {c : Char} {cs : List Char} : '.' ∉ cs → Cut leading (leading ++ c :: cs)
      (leading ++ c :: cs)
  | before {c : Char} {cs ds : List Char} : '.' ∉ cs →
      Cut leading (leading ++ c :: cs ++ '.' :: ds) (leading ++ c :: cs)

theorem takeWhile_not_dot_append {cs : List Char} (h : '.' ∉ cs) (ds : List Char) :
    (cs ++ '.' :: ds).takeWhile (· != '.') = cs := by
  rw [List.takeWhile_append_of_pos fun c hc => bne_iff_ne.mpr (ne_of_mem_of_not_mem hc h),
    List.takeWhile_cons_of_neg (by decide), List.append_nil]

/-- A text is cut at one place only, and `cutBelow` finds it. -/
theorem cut_iff {leading text name : List Char} (h : leading <+: text) :
    Cut leading text name ↔ cutBelow leading.length text = name := by
  constructor
  · rintro (_ | hcs | hcs)
    · exact cutBelow_length leading
    · rw [cutBelow_append_cons, takeWhile_not_dot hcs]
    · rw [List.append_assoc, List.cons_append, cutBelow_append_cons, takeWhile_not_dot_append hcs]
  · rintro rfl
    obtain ⟨below, rfl⟩ := h
    cases below with
    | nil =>
      rw [List.append_nil, cutBelow_length]
      exact .leading
    | cons c cs =>
      rw [cutBelow_append_cons]
      by_cases hdot : '.' ∈ cs
      · obtain ⟨before, after, rfl, hbefore⟩ := List.eq_append_cons_of_mem hdot
        rw [takeWhile_not_dot_append hbefore, ← List.cons_append, ← List.append_assoc]
        exact .before hbefore
      · rw [takeWhile_not_dot hdot]
        exact .whole hdot

theorem nameOf_eq_iff (h : Text.startsWith text p.leading = true) : p.nameOf text = name ↔
    if p.directOnly then Cut p.leading.toList text.toList name.toList else name = text := by
  unfold nameOf
  cases p.directOnly with
  | false => simp [eq_comm]
  | true =>
    simp only [if_true]
    rw [cut_iff (Text.startsWith_iff.mp h), ← String.toList_inj, String.toList_ofList]

end PackageNames

/-! ## Segments in memory -/

namespace MemorySegment

/-- A term from `start` on that is below a term of the field of `start` is of that field. -/
theorem field_eq_of_between {start t u : Term} (ht : ¬ t < start) (htu : t < u)
    (hu : u.field = start.field) : t.field = start.field := by
  rw [Term.lt_def, not_or] at ht
  rcases htu with hlt | ⟨hf, -⟩
  · exact absurd (hu ▸ hlt) ht.1
  · exact hf.trans hu

/-- **The walk comes to every text of the field that begins with the leading text**, and to nothing
else that gives a name. -/
theorem mem_walkTerms_classify {m : MemorySegment} {p : PackageNames} {name : String} :
    name ∈ walkTerms p.classify (m.termsFrom p.startTerm) ↔
      ∃ text, Term.mk p.field text ∈ m.dictionary.keys ∧
        Text.startsWith text p.leading = true ∧ p.nameOf text = name := by
  have hpass : (m.termsFrom p.startTerm).Pairwise
      fun t u => u.field = p.field → t.field = p.field :=
    List.Pairwise.imp_of_mem
      (fun ht _ htu hu => field_eq_of_between (mem_termsFrom.mp ht).2 htu hu)
      (m.pairwise_termsFrom p.startTerm)
  rw [mem_walkTerms fun t => PackageNames.classify_eq_stop_iff]
  simp only [mem_takeWhile_of_pairwise hpass, mem_termsFrom, PackageNames.classify_eq_produce_iff]
  constructor
  · rintro ⟨⟨field, text⟩, ⟨⟨hkey, -⟩, rfl⟩, -, hstarts, hname⟩
    exact ⟨text, hkey, hstarts, hname⟩
  · rintro ⟨text, hkey, hstarts, hname⟩
    have hfrom : ¬ Term.mk p.field text < p.startTerm := not_lt_of_inRun ⟨rfl, hstarts⟩
    exact ⟨⟨p.field, text⟩, ⟨⟨hkey, hfrom⟩, rfl⟩, rfl, hstarts, hname⟩

/-- **Package names.** In every segment in memory the names at or under a leading text are those of
the terms of the package field that begin with it, whole or cut to the first level below it, and no
others. The slices that cut them are all there. -/
theorem packageNames_exact (docs : List (List Term)) (field : String) (leading : Option String)
    (directOnly : Bool) :
    ∃ names, packageNames (ofDocuments docs).segment
        (PackageNames.under field leading directOnly) = .ok names ∧
      packageNamesBySlices? (ofDocuments docs).segment
        (PackageNames.under field leading directOnly) = some (.ok names) ∧
      ∀ name, name ∈ names ↔ ∃ text, Term.mk field text ∈ (ofDocuments docs).dictionary.keys ∧
        Text.startsWith text (leading.getD "") = true ∧
        if directOnly then
          PackageNames.Cut (leading.getD "").toList text.toList name.toList
        else name = text := by
  refine ⟨OrderedSet.ofList (walkTerms (PackageNames.under field leading directOnly).classify
    ((ofDocuments docs).termsFrom (PackageNames.under field leading directOnly).startTerm)),
    rfl, ?_, fun name => ?_⟩
  · rw [packageNamesBySlices?_eq]
    rfl
  · rw [OrderedSet.mem_ofList, mem_walkTerms_classify]
    exact exists_congr fun text => and_congr_right fun _ => and_congr_right fun hstarts =>
      PackageNames.nameOf_eq_iff hstarts

end MemorySegment

end UsageIndex
