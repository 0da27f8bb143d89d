import UsageIndex.Proofs.Usages

/-!
# Usages of the names of a package

The pattern of the names directly in a package is put together from the package, escaped, and a
class of characters; the slots follow it. The literal text at its start, read off the pattern
again, is what all of its matches begin with.

* **`Pattern.literalRun_escape_append`**: the literal text of an escaped text is that text.
* **`describes_packagePattern`**: the pattern of a package matches the names directly in it.
* **`Session.findPackageUsages_finds_references`**: what a search for the names of a package finds.
-/

namespace UsageIndex

open UsageIndex.Pattern (Describes Joins KeepsToSize Weighs)

/-! ## Names directly in a package -/

/-- A name lies directly in a package: behind the package and a dot there is a text without dots, or
in the unnamed package the name is such a text. -/
def DirectlyIn (p n : String) : Prop :=
  ∃ x : String, x ≠ "" ∧ '.' ∉ x.toList ∧ n = if p = "" then x else p ++ "." ++ x

/-- What names directly in a package begin with. -/
def packagePrefix (p : String) : List Char := if p.isEmpty then [] else p.toList ++ ['.']

theorem directlyIn_iff {p n : String} : DirectlyIn p n ↔
    Joins (· = packagePrefix p) (fun x => x ≠ [] ∧ '.' ∉ x) n.toList := by
  have hname : ∀ x : String, (n = if p = "" then x else p ++ "." ++ x) ↔
      n.toList = packagePrefix p ++ x.toList := by
    intro x
    rw [← String.toList_inj]
    unfold packagePrefix
    by_cases hp : p = ""
    · simp [hp]
    · simp [hp]
  unfold DirectlyIn
  simp only [hname]
  constructor
  · rintro ⟨x, hx, hdot, hn⟩
    exact ⟨_, x.toList, hn, rfl, by simpa using hx, hdot⟩
  · rintro ⟨_, x, hn, rfl, hx, hdot⟩
    refine ⟨String.ofList x, fun h => hx ?_, by rwa [String.toList_ofList],
      by rwa [String.toList_ofList]⟩
    rw [← String.toList_ofList (l := x), h]
    rfl

theorem packagePattern_eq (p : String) : (packagePattern p).toList =
    Pattern.escape (packagePrefix p) ++ ['[', '^', '\\', '.', ']', '+'] := by
  unfold packagePattern packagePrefix
  by_cases hp : p.isEmpty = true
  · rw [if_pos hp, if_pos hp, String.toList_ofList]
    rfl
  · rw [if_neg hp, if_neg hp, String.toList_ofList]
    unfold Pattern.escape
    rw [List.flatMap_append]
    rfl

/-- **The pattern of a package** matches the names directly in it. -/
theorem describes_packagePattern (p : String) : Describes (packagePattern p).toList
    (Joins (· = packagePrefix p) fun x => x ≠ [] ∧ '.' ∉ x) := by
  rw [packagePattern_eq]
  exact (Describes.escape _).append .notDotPlus

/-- The literal text of a package pattern, whatever follows it. -/
theorem literalRun_packagePattern (p : String) (cs : List Char) :
    Pattern.literalRun ((packagePattern p).toList ++ cs) = packagePrefix p := by
  rw [packagePattern_eq, List.append_assoc, Pattern.literalRun_escape_append rfl]
  exact List.append_nil _

/-! ## Searches -/

/-- The pattern that references to the names of a package by all kinds of a mask are searched
with. -/
def packageUsagePattern (p : String) (m : UsageMask) : List Char :=
  (packagePattern p).toList ++ Slots.pattern m

/-- What the pattern of references to the names of a package describes. -/
theorem describes_packageUsagePattern (p : String) (m : UsageMask) :
    Describes (packageUsagePattern p m)
      (Joins (Joins (· = packagePrefix p) fun x => x ≠ [] ∧ '.' ∉ x) (Slots.Fits m)) :=
  (describes_packagePattern p).append (Slots.describes_pattern m)

/-- What a reference to a name of a package begins with. -/
theorem leadingLiteral_prefix {p : String} {m : UsageMask} {w : List Char}
    (h : packagePrefix p <+: w) : Pattern.leadingLiteral (packageUsagePattern p m) <+: w := by
  unfold Pattern.leadingLiteral packageUsagePattern
  split
  · exact List.nil_prefix
  · rwa [literalRun_packagePattern]

namespace Session

variable {o : SessionOptions} {s : Session} {p : String} {m : UsageMask}

/-- The query for a package asks for the names directly in it. -/
theorem together_packagePattern (hs : Session.new o = .ok s)
    (hsize : KeepsToSize (packageUsagePattern p m)) :
    ∃ q, s.queryBuilder.together (packagePattern p) m true = .ok q ∧
      q.AsksFor s.options.fields.references
        (Joins (· = packagePrefix p) fun x => x ≠ [] ∧ '.' ∉ x) m := by
  obtain ⟨hvalid, rfl⟩ := new_eq_ok_iff.mp hs
  obtain ⟨hfield, -, hcaseless, -⟩ := (SessionOptions.validate_eq_ok_iff o).mp hvalid
  have htext : (String.ofList (packageUsagePattern p m)).toList = packageUsagePattern p m :=
    String.toList_ofList
  obtain ⟨q, hq, hterm, hprefix, hmatch⟩ := PatternQuery.ofPattern_spec
    (t := ⟨o.fields.references, String.ofList (packageUsagePattern p m)⟩)
    (by rw [htext]; exact describes_packageUsagePattern p m) (by rw [htext]; exact hsize)
  have hleading : ∀ u, q.isMatch u = true → Text.startsWith u q.literalPrefix = true := by
    intro u hu
    obtain ⟨_, v, huv, ⟨_, x, rfl, rfl, -⟩, -⟩ := (hmatch u).mp hu
    rw [Text.startsWith_iff, hprefix, String.toList_ofList, htext, huv, List.append_assoc]
    exact leadingLiteral_prefix (List.prefix_append _ _)
  refine ⟨.regexp q, createQuery_regexp hfield hcaseless hq, ?_⟩
  intro allows ts
  rw [Query.Sat, PatternQuery.sat_iff hleading, hterm]
  simp only [hmatch]

/-- **Usages of the names of a package.** Over the documents that a session has indexed, the
search for the names of a package succeeds and finds the documents within the scope that refer to
some name directly in the package by kinds that meet the mask. -/
theorem findPackageUsages_finds_references (hs : Session.new o = .ok s) (docs : List UsageDocument)
    (p : String) (hm : m.isEmpty = false) {operator : Occur} (hop : operator ≠ .mustNot)
    (hsize : ∀ m' ∈ m.asked operator, KeepsToSize (packageUsagePattern p m'))
    (scope : List ScopeElement) :
    ∃ r, s.findPackageUsages (MemorySegment.ofDocuments (docs.map s.documentTerms)).segment p m
        operator scope = .ok r ∧ r.span = docs.length ∧ ∀ i, r.contains i = true ↔
      ∃ d n K, docs[i]? = some d ∧ d.references.find? n = some K ∧ DirectlyIn p n ∧
        m.Meets K operator ∧ InScope scope d.package := by
  obtain ⟨q, hq, r, hr, hspan, hmem⟩ := search_references hs docs hm hop
    (fun m' hm' => together_packagePattern hs (hsize m' hm')) scope
  have husages : s.packageUsagesQuery p m operator = .ok q := by
    unfold packageUsagesQuery UsageQueryBuilder.packageUsagesQuery
    rw [verifyArgument_bind_eq_ok_iff]
    exact ⟨by simp [hm], hq⟩
  refine ⟨r, ?_, hspan, fun i => ?_⟩
  · unfold findPackageUsages
    rw [husages]
    exact hr
  · rw [hmem i]
    simp only [directlyIn_iff]

/-- The pattern of a package is not too large, unless the package is very long. -/
theorem keepsToSize_packageUsagePattern (hp : p.toList.length ≤ 8000) :
    KeepsToSize (packageUsagePattern p m) := by
  have hslots : Weighs (Slots.pattern m) (1024 * 6) := by
    refine Weighs.flatMap (fun k => ?_) UsageKind.all
    by_cases hk : m.contains k = true
    · rw [if_pos hk]
      exact (Weighs.escapeChar '+').mono (by decide)
    · rw [if_neg hk]
      exact .dot
  have hprefix : (packagePrefix p).length ≤ p.toList.length + 1 := by
    unfold packagePrefix
    split
    · exact Nat.zero_le _
    · exact Nat.le_of_eq List.length_append
  have hall : Weighs (packageUsagePattern p m)
      (128 * (packagePrefix p).length + 1100 + 1024 * 6) := by
    unfold packageUsagePattern
    rw [packagePattern_eq]
    exact ((Weighs.flatMap Weighs.escapeChar _).append .notDotPlus).append hslots
  have hmax : Pattern.maxSize = 10485760 := rfl
  refine Pattern.keepsToSize_of_weighs hall ?_
  omega

/-- A document that names and calls one name directly in `a|b`, one that names one and calls
another, and one that does both with a name further below. -/
def packageCallers : List UsageDocument :=
  [(UsageDocument.new "").addReference "a|b.C" [.typeReference, .methodReference],
    ((UsageDocument.new "").addReference "a|b.C" [.typeReference]).addReference "a|b.D"
      [.methodReference],
    (UsageDocument.new "").addReference "a|b.c.D" [.typeReference, .methodReference]]

/-- Only the first document both names and calls a single name directly in `a|b`. -/
theorem findPackageUsages_packageCallers : ∃ r, Session.standard.findPackageUsages
    (MemorySegment.ofDocuments (packageCallers.map Session.standard.documentTerms)).segment "a|b"
      (UsageMask.ofList [.typeReference, .methodReference]) .must [] = .ok r ∧
    r.contains 0 = true ∧ r.contains 1 = false ∧ r.contains 2 = false := by
  obtain ⟨r, hr, -, hmem⟩ := findPackageUsages_finds_references new_standard packageCallers "a|b"
    (by decide : (UsageMask.ofList [.typeReference, .methodReference]).isEmpty = false)
    (by decide : Occur.must ≠ .mustNot) (fun _ _ => keepsToSize_packageUsagePattern (by decide)) []
  refine ⟨r, hr, (hmem 0).mpr ⟨_, "a|b.C", _, rfl, rfl, ⟨"C", by decide, by decide, rfl⟩, ?_, ?_⟩,
    ?_, ?_⟩
  · intro k
    cases k <;> decide
  · exact .inl fun e he => absurd he List.not_mem_nil
  · rw [← Bool.not_eq_true, hmem 1]
    rintro ⟨d, n, K, hd, hK, -, hmeets, -⟩
    cases Option.some.inj hd
    have hentries : (n, K) ∈ [("a|b.C", UsageMask.ofList [.typeReference]),
        ("a|b.D", UsageMask.ofList [.methodReference])] := OrderedMap.mem_entries_iff.mpr hK
    rcases List.mem_pair.mp hentries with he | he
    · cases he
      exact absurd (hmeets .methodReference (by decide)) (by decide)
    · cases he
      exact absurd (hmeets .typeReference (by decide)) (by decide)
  · rw [← Bool.not_eq_true, hmem 2]
    rintro ⟨d, n, K, hd, hK, ⟨x, -, hdot, hn⟩, -, -⟩
    cases Option.some.inj hd
    have hentries : (n, K) ∈ [("a|b.c.D", UsageMask.ofList [.typeReference, .methodReference])] :=
      OrderedMap.mem_entries_iff.mpr hK
    cases List.mem_singleton.mp hentries
    rw [if_neg (by decide), ← String.toList_inj, String.toList_append] at hn
    have hname : ['a', '|', 'b', '.'] ++ ['c', '.', 'D'] = ['a', '|', 'b', '.'] ++ x.toList := hn
    have hx : ['c', '.', 'D'] = x.toList := List.append_cancel_left hname
    exact hdot (hx ▸ by decide)

end Session

end UsageIndex
