import UsageIndex.Proofs.Satisfaction
import UsageIndex.Proofs.UsageQueries

/-!
# Lower case of leading texts

The lower case of a text does not always begin with the lower case of what the text begins with: a
sigma that is final in the leading text is not final any more where a cased letter follows. Nothing
else about a character depends on what stands behind it.

* **`Text.lowerFrom_append`**: the lower case of joined texts.
* **`Text.lowerFrom_prefix_iff`**: when the lower case of a text begins with that of a leading text.
* **`createQuery_caselessLeading_finds_copies`**: what a query up to case for a leading text finds.
* **`createQuery_caselessLeading_misses_copy`**: a text that it does not find.
-/

namespace UsageIndex

namespace Text

/-! ## Cased letters -/

/-- What stands behind characters that are passed over decides, and behind any other nothing
does. -/
theorem startsCased_append (cs ds : List Char) : startsCased (cs ++ ds) =
    if cs.all isCaseIgnorable then startsCased ds else startsCased cs := by
  unfold startsCased
  by_cases h : cs.all isCaseIgnorable = true
  · rw [if_pos h, List.dropWhile_append_of_pos (List.all_eq_true.mp h)]
  · rw [if_neg h, List.dropWhile_append]
    have hne : cs.dropWhile isCaseIgnorable ≠ [] := by
      rwa [Ne, List.dropWhile_eq_nil_iff, ← List.all_eq_true]
    obtain ⟨c, rest, hcs⟩ := List.exists_cons_of_ne_nil hne
    simp [hcs]

/-! ## Lower case of joined texts -/

/-- The lower case of `cs`, which stands between `before`, nearest first, and `after`. -/
def lowerBetween : List Char → List Char → List Char → List Char
  | _, [], _ => []
  | before, c :: cs, after =>
    lowerAt before c (cs ++ after) ++ lowerBetween (c :: before) cs after

/-- **The lower case of joined texts** is that of each, where it stands. -/
theorem lowerFrom_append (before cs ds : List Char) : lowerFrom before (cs ++ ds) =
    lowerBetween before cs ds ++ lowerFrom (cs.reverse ++ before) ds := by
  induction cs generalizing before with
  | nil => rfl
  | cons c cs ih =>
    rw [List.cons_append, lowerFrom, ih, lowerBetween, List.reverse_cons, List.append_assoc,
      List.append_assoc, List.singleton_append]

theorem lowerBetween_nil (before cs : List Char) :
    lowerBetween before cs [] = lowerFrom before cs := by
  have h := lowerFrom_append before cs []
  rw [List.append_nil, lowerFrom, List.append_nil] at h
  exact h.symm

/-- What follows matters only by whether it begins with a cased letter. -/
theorem lowerAt_congr (before : List Char) (c : Char) {after after' : List Char}
    (h : startsCased after = startsCased after') :
    lowerAt before c after = lowerAt before c after' := by
  unfold lowerAt
  rw [h]

theorem lowerBetween_congr (before cs : List Char) {after after' : List Char}
    (h : startsCased after = startsCased after') :
    lowerBetween before cs after = lowerBetween before cs after' := by
  induction cs generalizing before with
  | nil => rfl
  | cons c cs ih =>
    have hcs : startsCased (cs ++ after) = startsCased (cs ++ after') := by
      rw [startsCased_append, startsCased_append, h]
    rw [lowerBetween, lowerBetween, ih, lowerAt_congr before c hcs]

/-- Behind `before`, nearest first, a text ends in a sigma that is final: behind a cased letter, and
with nothing behind it but characters that are passed over. -/
def EndsInFinalSigma (before cs : List Char) : Prop :=
  ∃ ds es, cs = ds ++ 'Σ' :: es ∧ startsCased (ds.reverse ++ before) = true ∧
    es.all isCaseIgnorable = true

/-- A text that does not end in a final sigma has its lower case whatever follows. -/
theorem lowerBetween_of_not_endsInFinalSigma {before cs : List Char}
    (h : ¬ EndsInFinalSigma before cs) (after : List Char) :
    lowerBetween before cs after = lowerFrom before cs := by
  induction cs generalizing before with
  | nil => rfl
  | cons c cs ih =>
    have htail : ¬ EndsInFinalSigma (c :: before) cs := by
      rintro ⟨ds, es, rfl, hbefore, hes⟩
      refine h ⟨c :: ds, es, rfl, ?_, hes⟩
      rwa [List.reverse_cons, List.append_assoc, List.singleton_append]
    have hhead : lowerAt before c (cs ++ after) = lowerAt before c cs := by
      by_cases hcs : cs.all isCaseIgnorable = true
      · by_cases hc : c = 'Σ'
        · subst hc
          have hbefore : startsCased before = false := by
            rw [← Bool.not_eq_true]
            exact fun hbefore => h ⟨[], cs, rfl, hbefore, hcs⟩
          unfold lowerAt
          rw [hbefore]
          rfl
        · unfold lowerAt
          simp only [beq_iff_eq, if_neg hc]
      · exact lowerAt_congr before c (by rw [startsCased_append, if_neg hcs])
    rw [lowerBetween, lowerFrom, hhead, ih htail]

/-- **Lower case and leading texts.** The lower case of a text begins with that of a leading text,
unless this ends in a final sigma and a cased letter follows. -/
theorem lowerFrom_prefix_iff {cs ds : List Char} :
    lowerFrom [] cs <+: lowerFrom [] (cs ++ ds) ↔
      ¬ (EndsInFinalSigma [] cs ∧ startsCased ds = true) := by
  constructor
  · rintro hprefix ⟨⟨xs, ys, rfl, hxs, hys⟩, hds⟩
    -- up to the sigma both are the same, as it is cased
    have hsame : lowerBetween [] xs ('Σ' :: (ys ++ ds)) = lowerBetween [] xs ('Σ' :: ys) :=
      lowerBetween_congr [] xs rfl
    have hys' : startsCased ys = false := by
      have hnil := startsCased_append ys []
      rw [List.append_nil, if_pos hys] at hnil
      exact hnil
    have hopen : startsCased (ys ++ ds) = true := by rw [startsCased_append, if_pos hys, hds]
    rw [List.append_nil] at hxs
    rw [List.append_assoc, List.cons_append, lowerFrom_append, lowerFrom_append, hsame,
      List.prefix_append_right_inj, lowerFrom, lowerFrom, List.append_nil] at hprefix
    unfold lowerAt at hprefix
    simp [hxs, hys', hopen] at hprefix
  · intro h
    rw [lowerFrom_append]
    have hcs : lowerBetween [] cs ds = lowerFrom [] cs := by
      by_cases hsigma : EndsInFinalSigma [] cs
      · have hds : startsCased ds = false := by simpa [hsigma] using h
        have hnil : startsCased ds = startsCased [] := hds
        rw [lowerBetween_congr [] cs hnil, lowerBetween_nil]
      · exact lowerBetween_of_not_endsInFinalSigma hsigma ds
    rw [hcs]
    exact List.prefix_append _ _

/-- A text goes on behind a leading text so that a sigma in which that ends is not final any
more. -/
def UndoesFinalSigma (leading s : String) : Prop :=
  EndsInFinalSigma [] leading.toList ∧
    startsCased (s.toList.drop leading.toList.length) = true

theorem startsWith_lowercase_iff {s leading : String} (h : startsWith s leading = true) :
    startsWith (lowercase s) (lowercase leading) = true ↔ ¬ UndoesFinalSigma leading s := by
  obtain ⟨rest, hrest⟩ := startsWith_iff.mp h
  have hdrop : s.toList.drop leading.toList.length = rest := by rw [← hrest, List.drop_left]
  unfold UndoesFinalSigma lowercase
  rw [hdrop, startsWith_iff, String.toList_ofList, String.toList_ofList, ← hrest]
  exact lowerFrom_prefix_iff

end Text

/-! ## Queries -/

namespace MemorySegment

/-- A query for a leading text finds every document with some text of the field exactly if that
begins with the leading text. -/
theorem finds_text_iff {t : Term} {text : String} :
    (∀ docs, ∃ r, execute (ofDocuments docs).segment (.leading t) = .ok r ∧
      r.span = docs.length ∧ ∀ (i : Nat) (ts : List Term), docs[i]? = some ts →
        Term.mk t.field text ∈ ts → r.contains i = true) ↔
      Text.startsWith text t.text = true := by
  have hspec := fun docs => execute_spec docs (.leading t) (by simp [Query.filters])
  constructor
  · intro h
    obtain ⟨r, hr, -, hfinds⟩ := h [[⟨t.field, text⟩]]
    obtain ⟨r', hr', -, hmem⟩ := hspec [[⟨t.field, text⟩]]
    rw [hr] at hr'
    cases hr'
    have hcontains := hfinds 0 _ rfl (List.mem_singleton_self _)
    obtain ⟨_, hts, u, hu, -, hstarts⟩ := (hmem 0).mp hcontains
    cases hts
    rw [List.mem_singleton.mp hu] at hstarts
    exact hstarts
  · intro h docs
    obtain ⟨r, hr, hspan, hmem⟩ := hspec docs
    exact ⟨r, hr, hspan, fun i ts hts ht => (hmem i).mpr ⟨ts, hts, _, ht, rfl, h⟩⟩

end MemorySegment

/-- **Leading texts up to case.** The query for a value up to case is for the lower case of the
value. If a text begins with the value, its lower case copy begins with that, and the query finds
every document with the copy in every segment in memory, exactly if the text does not undo a final
sigma of the value. -/
theorem createQuery_caselessLeading_finds_copies {field caselessField value : String}
    (hfield : field ≠ "") (hcaseless : caselessField ≠ "") :
    createQuery field caselessField value .caselessLeading =
      .ok (.leading ⟨caselessField, Text.lowercase value⟩) ∧
    ∀ t : String, Text.startsWith t value = true →
      (Text.startsWith (Text.lowercase t) (Text.lowercase value) = true ↔
        ¬ Text.UndoesFinalSigma value t) ∧
      ((∀ docs, ∃ r, execute (MemorySegment.ofDocuments docs).segment
          (.leading ⟨caselessField, Text.lowercase value⟩) = .ok r ∧ r.span = docs.length ∧
        ∀ (i : Nat) (ts : List Term), docs[i]? = some ts →
          Term.mk caselessField (Text.lowercase t) ∈ ts → r.contains i = true) ↔
        ¬ Text.UndoesFinalSigma value t) := by
  refine ⟨createQuery_eq_ok_iff.mpr ⟨hfield, hcaseless, rfl⟩, fun t ht => ?_⟩
  have hlower := Text.startsWith_lowercase_iff ht
  exact ⟨hlower, (MemorySegment.finds_text_iff (t := ⟨caselessField, _⟩)).trans hlower⟩

/-- A value ends in a final sigma, and a text goes on with a space: it is found. -/
theorem createQuery_caselessLeading_spaced : ∃ r,
    createQuery "f" "g" "ΑΣ" .caselessLeading = .ok (.leading ⟨"g", "ας"⟩) ∧
      execute (MemorySegment.ofDocuments [[⟨"g", "β"⟩], [⟨"g", "ας β"⟩]]).segment
        (.leading ⟨"g", "ας"⟩) = .ok r ∧ r.contains 1 = true := by
  obtain ⟨hquery, hfinds⟩ := @createQuery_caselessLeading_finds_copies "f" "g" "ΑΣ"
    (by decide) (by decide)
  have hvalue : Text.lowercase "ΑΣ" = "ας" := by decide +kernel
  have htext : Text.lowercase "ΑΣ Β" = "ας β" := by decide +kernel
  rw [hvalue] at hquery hfinds
  have hopen : ¬ Text.UndoesFinalSigma "ΑΣ" "ΑΣ Β" := fun h => absurd h.2 (by decide +kernel)
  obtain ⟨r, hr, -, hmem⟩ := (hfinds "ΑΣ Β" (by decide +kernel)).2.mpr hopen
    [[⟨"g", "β"⟩], [⟨"g", "ας β"⟩]]
  exact ⟨r, hquery, hr, hmem 1 _ rfl (by rw [htext]; decide)⟩

/-- A value ends in a final sigma, and a text goes on with a letter: the query for the value is not
for a leading text of the copy, and does not find it. -/
theorem createQuery_caselessLeading_misses_copy :
    Text.startsWith "ΑΣΑ" "ΑΣ" = true ∧
      createQuery "f" "g" "ΑΣ" .caselessLeading = .ok (.leading ⟨"g", "ας"⟩) ∧
      Text.lowercase "ΑΣΑ" = "ασα" ∧ Text.startsWith "ασα" "ας" = false ∧ ∃ r,
        execute (MemorySegment.ofDocuments [[⟨"g", "ασα"⟩]]).segment (.leading ⟨"g", "ας"⟩) =
          .ok r ∧ r.contains 0 = false := by
  have hvalue : Text.lowercase "ΑΣ" = "ας" := by decide +kernel
  have hquery : createQuery "f" "g" "ΑΣ" .caselessLeading =
      .ok (.leading ⟨"g", Text.lowercase "ΑΣ"⟩) := rfl
  rw [hvalue] at hquery
  exact ⟨by decide +kernel, hquery, by decide +kernel, by decide +kernel, DocSet.empty 1,
    by decide +kernel, rfl⟩

end UsageIndex
