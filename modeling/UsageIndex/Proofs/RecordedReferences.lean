import UsageIndex.Proofs.EncodedReferences

/-!
# Recording references

A document is told of references one after the other: a name, and some kinds of it. What it knows in
the end is which kinds it has been told of which name. In what order it was told, and in how many
pieces, makes no difference, and a name that comes without kinds leaves no trace in the terms.

* **`UsageDocument.contains_maskOf_addReferences`**: the kinds of a name after any references.
* **`UsageDocument.maskOf_congr`**, **`UsageDocument.terms_congr`**: references that tell the same
  give the same masks; documents with the same masks carry the same terms.
* **`UsageDocument.exists_names`**: the terms of a document, name by name.
* **`UsageDocument.addReferences_cumulative`**: what references add to a document, and what its
  terms say of it.
-/

namespace UsageIndex.UsageDocument

/-- A document that also refers to names by some kinds, told one after the other. -/
def addReferences (d : UsageDocument) (refs : List (String × List UsageKind)) : UsageDocument :=
  refs.foldl (fun d r => d.addReference r.1 r.2) d

/-- Some reference tells a kind of a name. -/
def Tells (refs : List (String × List UsageKind)) (n : String) (k : UsageKind) : Prop :=
  ∃ ks, (n, ks) ∈ refs ∧ k ∈ ks

variable {d d' : UsageDocument} {refs refs' : List (String × List UsageKind)} {n x : String}
  {ks : List UsageKind} {k : UsageKind}

theorem tells_cons : Tells ((x, ks) :: refs) n k ↔ (n = x ∧ k ∈ ks) ∨ Tells refs n k := by
  unfold Tells
  simp only [List.mem_cons, Prod.mk.injEq]
  constructor
  · rintro ⟨ls, ⟨rfl, rfl⟩ | h, hk⟩
    · exact .inl ⟨rfl, hk⟩
    · exact .inr ⟨ls, h, hk⟩
  · rintro (⟨rfl, hk⟩ | ⟨ls, h, hk⟩)
    · exact ⟨ks, .inl ⟨rfl, rfl⟩, hk⟩
    · exact ⟨ls, .inr h, hk⟩

/-- What is told of a name is told by the references to it. -/
theorem tells_filter : Tells (refs.filter fun r => r.1 = n) n k ↔ Tells refs n k := by
  simp [Tells]

/-! ## One reference -/

theorem find?_addReference (d : UsageDocument) (x : String) (ks : List UsageKind) (n : String) :
    (d.addReference x ks).references.find? n =
      if n = x then some ((d.maskOf x).union (UsageMask.ofList ks)) else d.references.find? n :=
  OrderedMap.find?_alter d.references x n _

/-- **One reference** adds its kinds to those of its name, and to no other. -/
theorem contains_maskOf_addReference : ((d.addReference x ks).maskOf n).contains k = true ↔
    (d.maskOf n).contains k = true ∨ (n = x ∧ k ∈ ks) := by
  unfold maskOf
  rw [find?_addReference]
  by_cases h : n = x
  · subst h
    simp [maskOf]
  · simp [h]

/-- A document refers to a name, be it without kinds. -/
def Mentions (d : UsageDocument) (n : String) : Prop := ∃ m, d.references.find? n = some m

theorem mentions_addReference : (d.addReference x ks).Mentions n ↔ d.Mentions n ∨ n = x := by
  unfold Mentions
  rw [find?_addReference]
  by_cases h : n = x
  · simp [h]
  · simp [h]

/-! ## Any references -/

theorem package_addReferences (d : UsageDocument) (refs : List (String × List UsageKind)) :
    (d.addReferences refs).package = d.package := by
  induction refs generalizing d with
  | nil => rfl
  | cons r refs ih => exact ih (d.addReference r.1 r.2)

/-- **Any references** add to the kinds of a name those that they tell of it. -/
theorem contains_maskOf_addReferences : ((d.addReferences refs).maskOf n).contains k = true ↔
    (d.maskOf n).contains k = true ∨ Tells refs n k := by
  induction refs generalizing d with
  | nil => simp [addReferences, Tells]
  | cons r refs ih =>
    obtain ⟨x, ks⟩ := r
    refine (ih (d := d.addReference x ks)).trans ?_
    rw [contains_maskOf_addReference, tells_cons, or_assoc]

theorem mentions_addReferences :
    (d.addReferences refs).Mentions n ↔ d.Mentions n ∨ n ∈ refs.map Prod.fst := by
  induction refs generalizing d with
  | nil => simp [addReferences]
  | cons r refs ih =>
    refine (ih (d := d.addReference r.1 r.2)).trans ?_
    rw [mentions_addReference, or_assoc, List.map_cons, List.mem_cons]

/-- References that tell the same give the same masks. -/
theorem maskOf_congr (h : ∀ n k, Tells refs n k ↔ Tells refs' n k) (n : String) :
    (d.addReferences refs).maskOf n = (d.addReferences refs').maskOf n :=
  UsageMask.ext fun k => by
    rw [Bool.eq_iff_iff, contains_maskOf_addReferences, contains_maskOf_addReferences, h]

theorem find?_eq_some_iff {m : UsageMask} :
    d.references.find? n = some m ↔ d.Mentions n ∧ d.maskOf n = m := by
  unfold Mentions maskOf
  cases d.references.find? n with
  | none => simp
  | some m' => simp

/-- Documents of one package that mention the same names by the same kinds are equal. A name without
kinds has the mask of a name that is not mentioned, so the masks alone do not tell a document. -/
theorem eq_of_maskOf (hpackage : d.package = d'.package)
    (hnames : ∀ n, d.Mentions n ↔ d'.Mentions n) (hmasks : ∀ n, d.maskOf n = d'.maskOf n) : d = d' := by
  have hrefs : d.references = d'.references := OrderedMap.ext fun n => Option.ext fun m => by
    rw [find?_eq_some_iff, find?_eq_some_iff, hnames, hmasks]
  cases d
  cases d'
  cases hpackage
  cases hrefs
  rfl

/-- References that tell the same of the same names give the same document. -/
theorem addReferences_congr (hnames : ∀ n, n ∈ refs.map Prod.fst ↔ n ∈ refs'.map Prod.fst)
    (h : ∀ n k, Tells refs n k ↔ Tells refs' n k) :
    d.addReferences refs = d.addReferences refs' :=
  eq_of_maskOf ((package_addReferences d refs).trans (package_addReferences d refs').symm)
    (fun n => by rw [mentions_addReferences, mentions_addReferences, hnames]) (maskOf_congr h)

/-- References may be told in any order. -/
theorem addReferences_perm (h : refs.Perm refs') :
    d.addReferences refs = d.addReferences refs' :=
  addReferences_congr (fun _ => (h.map Prod.fst).mem_iff)
    fun _ _ => exists_congr fun _ => and_congr_left fun _ => h.mem_iff

/-- Kinds of one name may be told together or apart. -/
theorem addReferences_append (ls : List UsageKind) :
    d.addReferences ((x, ks ++ ls) :: refs) = d.addReferences ((x, ks) :: (x, ls) :: refs) :=
  addReferences_congr (fun n => by simp) fun n k => by
    rw [tells_cons, tells_cons, tells_cons, List.mem_append, ← or_assoc, ← and_or_left]

/-! ## Terms -/

/-- The names that a document refers to by some kind, with their kinds. -/
def referenced (d : UsageDocument) : List (String × UsageMask) :=
  d.references.entries.filter fun r => !r.2.isEmpty

theorem pairwise_referenced (d : UsageDocument) :
    d.referenced.Pairwise fun r s => r.1 < s.1 :=
  d.references.ascending.filter _

theorem mem_referenced {m : UsageMask} :
    (n, m) ∈ d.referenced ↔ d.maskOf n = m ∧ m.isEmpty = false := by
  unfold referenced
  rw [List.mem_filter, OrderedMap.mem_entries_iff, Bool.not_eq_true']
  refine and_congr_left fun hm => ?_
  unfold maskOf
  cases d.references.find? n with
  | none =>
    -- a name that is not mentioned has no kinds
    simp only [reduceCtorEq, Option.getD_none, false_iff]
    rintro rfl
    cases hm
  | some m' => simp

/-- Documents of one package with the same masks carry the same terms. -/
theorem terms_congr (hpackage : d.package = d'.package) (hmasks : ∀ n, d.maskOf n = d'.maskOf n)
    (e : Encoder) (packageField : String) : d.terms e packageField = d'.terms e packageField := by
  have hreferenced : d.referenced = d'.referenced :=
    pairwise_ext Prod.fst d.pairwise_referenced d'.pairwise_referenced fun r => by
      rw [mem_referenced, mem_referenced, hmasks]
  unfold referenced at hreferenced
  unfold terms
  rw [hpackage, hreferenced]

/-- **The terms of a document**, name by name: that of its package, and one for each name that it
refers to by some kind, in the order of the names. -/
theorem exists_names (d : UsageDocument) : ∃ names : List String,
    names.Pairwise (· < ·) ∧ (∀ n, n ∈ names ↔ (d.maskOf n).isEmpty = false) ∧
      ∀ (e : Encoder) packageField, d.terms e packageField =
        ⟨packageField, d.package⟩ :: names.map fun n => e.documentTerm n (d.maskOf n) := by
  refine ⟨d.referenced.map Prod.fst, List.pairwise_map.mpr d.pairwise_referenced, fun n => ?_,
    fun e packageField => ?_⟩
  · rw [List.mem_map]
    constructor
    · rintro ⟨⟨n, m⟩, hr, rfl⟩
      obtain ⟨rfl, hm⟩ := mem_referenced.mp hr
      exact hm
    · exact fun hn => ⟨(n, d.maskOf n), mem_referenced.mpr ⟨rfl, hn⟩, rfl⟩
  · unfold terms
    rw [List.map_map]
    refine congrArg _ (List.map_congr_left fun r hr => ?_)
    obtain ⟨hr, -⟩ := mem_referenced.mp hr
    rw [Function.comp_apply, hr]

/-! ## Recording -/

/-- **Recording references is cumulative.** The kinds of a name are those recorded before and those
told of it, and what is told of other names makes no difference. References that tell the same give
the same masks and the same terms; they may be told in any order, and the kinds of a name together
or apart. The terms are that of the package and one for each name with some kind, in the order of
the names, each of which decodes to the name and its kinds. -/
theorem addReferences_cumulative (d : UsageDocument) (refs : List (String × List UsageKind))
    (field packageField : String) :
    (∀ n k, ((d.addReferences refs).maskOf n).contains k = true ↔
      (d.maskOf n).contains k = true ∨ ∃ ks, (n, ks) ∈ refs ∧ k ∈ ks) ∧
    (∀ n, (d.addReferences refs).maskOf n =
      (d.addReferences (refs.filter fun r => r.1 = n)).maskOf n) ∧
    (∀ refs', (∀ n k, Tells refs n k ↔ Tells refs' n k) →
      (∀ n, (d.addReferences refs).maskOf n = (d.addReferences refs').maskOf n) ∧
        ∀ (e : Encoder) p, (d.addReferences refs).terms e p = (d.addReferences refs').terms e p) ∧
    (∀ refs', refs.Perm refs' → d.addReferences refs = d.addReferences refs') ∧
    (∀ n ks ls, d.addReferences ((n, ks ++ ls) :: refs) =
      d.addReferences ((n, ks) :: (n, ls) :: refs)) ∧
    ∃ names : List String, names.Pairwise (· < ·) ∧
      (∀ n, n ∈ names ↔ ∃ k, ((d.addReferences refs).maskOf n).contains k = true) ∧
      (d.addReferences refs).terms (Encoder.slots field) packageField =
        ⟨packageField, d.package⟩ :: (names.map fun n =>
          (Encoder.slots field).documentTerm n ((d.addReferences refs).maskOf n)) ∧
      ∀ n ∈ names, decodeReference?
          ((Encoder.slots field).documentTerm n ((d.addReferences refs).maskOf n)).text =
        some (n, (d.addReferences refs).maskOf n) := by
  refine ⟨fun n k => contains_maskOf_addReferences, fun n => ?_,
    fun refs' h => ⟨maskOf_congr h, ?_⟩, fun refs' => addReferences_perm, fun n ks ls => addReferences_append ls, ?_⟩
  · exact UsageMask.ext fun k => by
      rw [Bool.eq_iff_iff, contains_maskOf_addReferences, contains_maskOf_addReferences,
        tells_filter]
  · exact terms_congr ((package_addReferences d refs).trans (package_addReferences d refs').symm)
      (maskOf_congr h)
  · obtain ⟨names, hascending, hnames, hterms⟩ := (d.addReferences refs).exists_names
    refine ⟨names, hascending, fun n => ?_, ?_, fun n _ => decodeReference?_documentTerm⟩
    · rw [hnames, ← Bool.not_eq_true, UsageMask.isEmpty_iff, not_forall]
      simp only [Bool.not_eq_false]
    · rw [hterms, package_addReferences]

theorem addReferences_cumulative_list :
    let d := UsageDocument.new "com.acme"
    let refs := [("java.util.List", [UsageKind.typeReference]), ("java.lang.Unused", []),
      ("java.util.List", [.methodReference, .typeReference])]
    let refs' := [("java.util.List", [UsageKind.methodReference]),
      ("java.util.List", [UsageKind.typeReference])]
    d.addReferences refs = d.addReferences refs.reverse ∧
      (d.addReferences refs).terms (Encoder.slots "references") "packageName" =
        (d.addReferences refs').terms (Encoder.slots "references") "packageName" ∧
      (d.addReferences refs').terms (Encoder.slots "references") "packageName" =
        [⟨"packageName", "com.acme"⟩, ⟨"references", "java.util.List--++--"⟩] := by
  intro d refs refs'
  obtain ⟨-, -, htells, hperm, -⟩ := addReferences_cumulative d refs "references" "packageName"
  have hsame : ∀ n k, Tells refs n k ↔ Tells refs' n k := fun n k => by
    simp only [refs, refs', tells_cons, List.mem_cons, List.not_mem_nil]
    tauto
  exact ⟨hperm refs.reverse refs.reverse_perm.symm, (htells refs' hsame).2 _ _, by decide⟩

end UsageIndex.UsageDocument
