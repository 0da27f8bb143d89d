import UsageIndex.Proofs.Pattern.Closing

/-!
# Texts that are no patterns

The text of a regexp query is put into a group between the ends of the text and compiled with it. A
text that is no pattern is refused there, but for one kind: it closes the group behind a pattern,
and what it opens or leaves undone is made good by the end of the group.

* **`Pattern.Reopens`**: such a text.
* **`PatternQuery.exists_ofPattern_iff`**: the texts of which a query is made.
* **`createQuery_regexp_refuses`**: a text that is no pattern is refused, unless it reopens the
  group.
* **`createQuery_regexp_reopened`**: a text that is no pattern and is accepted.
-/

namespace UsageIndex

namespace Pattern

/-- A text closes the group into which it is put behind a pattern, and goes on so that all of it
becomes a pattern in the group. -/
def Reopens (cs : List Char) : Prop :=
  ∃ u v, cs = u ++ ')' :: v ∧ IsPattern u ∧ IsPattern (anchored cs)

end Pattern

open UsageIndex.Pattern (IsPattern KeepsToLimits Reopens anchored)

/-- The query of a text is made, or else the text is reported. -/
theorem PatternQuery.ofPattern_ok_or_error (t : Term) (caseless : Bool) :
    (∃ p, ofPattern t caseless = .ok p) ∨
      ∃ message, ofPattern t caseless = .error (.invalidPattern t.text message) := by
  unfold ofPattern CompiledPattern.compile
  simp only
  cases Pattern.compile (Pattern.baseFlags caseless) (anchored t.text.toList) with
  | ok e => exact .inl ⟨_, rfl⟩
  | error f => exact .inr ⟨_, rfl⟩

/-- **The texts of which a query is made** are those that become a pattern in the group, within the
limits. -/
theorem PatternQuery.exists_ofPattern_iff {t : Term} {caseless : Bool} :
    (∃ p, ofPattern t caseless = .ok p) ↔
      IsPattern (anchored t.text.toList) ∧ KeepsToLimits caseless t.text.toList := by
  simp only [ofPattern_eq_ok_iff, Pattern.compile_eq_ok_iff]
  constructor
  · rintro ⟨_, e, ⟨tree, htree, hlimits, -⟩, -⟩
    refine ⟨Pattern.exists_parse htree _, fun tree' htree' => ?_⟩
    cases htree.symm.trans htree'
    exact hlimits
  · rintro ⟨hpattern, hlimits⟩
    obtain ⟨tree, htree⟩ := hpattern.parse (Pattern.baseFlags caseless)
    exact ⟨_, _, ⟨tree, htree, hlimits tree htree, rfl⟩, rfl⟩

/-- A regexp query is the query of its text over one of the two fields. -/
theorem createQuery_eq_ofPattern {field caselessField value : String} {kind : QueryKind}
    (hfield : field ≠ "") (hcaseless : caselessField ≠ "")
    (hkind : kind = .regexp ∨ kind = .caselessRegexp) :
    createQuery field caselessField value kind = (PatternQuery.ofPattern
      ⟨if kind = .regexp then field else caselessField, value⟩ (kind = .caselessRegexp)).map
        Query.regexp := by
  have hfield' : field.isEmpty = false := by simpa using hfield
  have hcaseless' : caselessField.isEmpty = false := by simpa using hcaseless
  unfold createQuery verifyArgument
  rw [hfield', hcaseless']
  rcases hkind with rfl | rfl
  · cases h : PatternQuery.ofPattern ⟨field, value⟩ false <;>
      simp [h, bind, Except.bind, pure, Except.pure, Except.map]
  · cases h : PatternQuery.ofPattern ⟨caselessField, value⟩ true <;>
      simp [h, bind, Except.bind, pure, Except.pure, Except.map]

/-- **Texts that are no patterns.** A regexp query of such a text fails, with the text reported,
unless the text closes the group into which it is put and makes a pattern of it that keeps to the
limits. -/
theorem createQuery_regexp_refuses {field caselessField value : String} {kind : QueryKind}
    (hfield : field ≠ "") (hcaseless : caselessField ≠ "")
    (hkind : kind = .regexp ∨ kind = .caselessRegexp) (hpattern : ¬ IsPattern value.toList) :
    (∃ message, createQuery field caselessField value kind =
        .error (.invalidPattern value message)) ↔
      ¬ (Reopens value.toList ∧ KeepsToLimits (kind = .caselessRegexp) value.toList) := by
  rw [createQuery_eq_ofPattern hfield hcaseless hkind]
  generalize hterm : Term.mk (if kind = .regexp then field else caselessField) value = t
  have htext : value = t.text := by rw [← hterm]
  rw [htext] at hpattern ⊢
  constructor
  · rintro ⟨message, h⟩ ⟨⟨_, _, -, -, hanchored⟩, hlimits⟩
    obtain ⟨p, hp⟩ := PatternQuery.exists_ofPattern_iff.mpr ⟨hanchored, hlimits⟩
    rw [hp] at h
    cases h
  · intro hreopens
    rcases PatternQuery.ofPattern_ok_or_error t (kind = .caselessRegexp) with
      hok | ⟨message, herror⟩
    · obtain ⟨hanchored, hlimits⟩ := PatternQuery.exists_ofPattern_iff.mp hok
      obtain ⟨u, v, huv, hu⟩ := (Pattern.isPattern_or_closes hanchored).resolve_left hpattern
      exact absurd ⟨⟨u, v, huv, hu, hanchored⟩, hlimits⟩ hreopens
    · exact ⟨message, by rw [herror]; rfl⟩

/-- A text with a parenthesis too many, behind which nothing is opened. -/
theorem createQuery_regexp_refuses_unopened : ∃ message,
    createQuery "f" "g" "(a|b))c" .caselessRegexp =
      .error (.invalidPattern "(a|b))c" message) := by
  refine (createQuery_regexp_refuses (by decide) (by decide) (.inr rfl) (by decide +kernel)).mpr ?_
  rintro ⟨⟨_, _, -, -, hanchored⟩, -⟩
  exact absurd hanchored (by decide +kernel)

/-- The query of a text that closes the group behind a pattern and opens another. -/
def reopenedQuery : PatternQuery where
  term := ⟨"f", "a)|(?:b"⟩
  pattern := ⟨"^(?:a)|(?:b)$", false, .alt (.seq (.edge .textStart) (.one (.single 'a')))
    (.seq (.one (.single 'b')) (.edge .textEnd))⟩
  literalPrefix := ""

/-- A text that is no pattern is accepted, and matches what it only begins. -/
theorem createQuery_regexp_reopened : ¬ IsPattern "a)|(?:b".toList ∧
    createQuery "f" "g" "a)|(?:b" .regexp = .ok (.regexp reopenedQuery) ∧
      reopenedQuery.isMatch "ax" = true := by
  have hpattern : PatternQuery.ofPattern ⟨"f", "a)|(?:b"⟩ false = .ok reopenedQuery := by
    decide +kernel
  exact ⟨by decide +kernel, createQuery_regexp (by decide) (by decide) hpattern,
    by decide +kernel⟩

end UsageIndex
