import UsageIndex.Proofs.PackageNames
import UsageIndex.Proofs.Recording

/-!
# Packages level by level

Under a leading text the names may be listed whole, or cut to the first level below it. The two
listings belong together: a name of the first level is a package or has packages below it, and the
packages below the names of the first level are all there are.

* **`PackageNames.Cut.oneLevel`**, **`PackageNames.Cut.atOrUnder`**: a cut name ends at the first
  dot behind its first character below the leading text, and the text lies at it or under it.
* **`MemorySegment.directNames_cover`**: the names of the first level and the names under them.
-/

namespace UsageIndex

namespace PackageNames

/-- A package has a name, or its name goes on with a dot behind it. -/
def AtOrUnder (n q : String) : Prop := q = n ∨ Text.startsWith q (n ++ ".") = true

instance (n q : String) : Decidable (AtOrUnder n q) := inferInstanceAs (Decidable (_ ∨ _))

/-! ## Cut names -/

section

variable {leading text name : List Char}

theorem Cut.startsWith (h : Cut leading text name) : leading <+: name := by
  rcases h with _ | _ | _
  · exact List.prefix_refl leading
  · exact List.prefix_append leading _
  · exact List.prefix_append leading _

/-- Behind the first character below the leading text a cut name has no dot. -/
theorem Cut.oneLevel (h : Cut leading text name) : '.' ∉ name.drop (leading.length + 1) := by
  rcases h with _ | hcs | hcs
  · rw [List.drop_of_length_le (Nat.le_succ _)]
    exact List.not_mem_nil
  · rwa [List.drop_length_add_append]
  · rwa [List.drop_length_add_append]

/-- What is cut off begins with a dot. -/
theorem Cut.atOrUnder (h : Cut leading text name) : text = name ∨ name ++ ['.'] <+: text := by
  rcases h with _ | _ | _
  · exact .inl rfl
  · exact .inl rfl
  · rename_i c cs ds _
    exact .inr ⟨ds, by rw [List.append_assoc]; rfl⟩

end

/-- A text that begins with the leading text is cut to some name. -/
theorem exists_cut {leading text : String} (h : Text.startsWith text leading = true) :
    ∃ n : String, Cut leading.toList text.toList n.toList :=
  ⟨String.ofList (cutBelow leading.toList.length text.toList),
    (cut_iff (Text.startsWith_iff.mp h)).mpr String.toList_ofList.symm⟩

theorem atOrUnder_iff {n q : String} :
    AtOrUnder n q ↔ q.toList = n.toList ∨ n.toList ++ ['.'] <+: q.toList := by
  unfold AtOrUnder
  rw [← String.toList_inj, Text.startsWith_iff, String.toList_append]
  rfl

/-- What lies at or under a name begins as the name does. -/
theorem AtOrUnder.startsWith {leading n q : String} (h : AtOrUnder n q)
    (hn : Text.startsWith n leading = true) : Text.startsWith q leading = true := by
  rw [Text.startsWith_iff] at hn ⊢
  rcases atOrUnder_iff.mp h with he | hunder
  · rwa [he]
  · exact hn.trans ((List.prefix_append n.toList ['.']).trans hunder)

end PackageNames

/-! ## Segments in memory -/

namespace MemorySegment

open PackageNames (AtOrUnder Cut atOrUnder_iff)

/-- The names that are asked for of a segment in memory. -/
theorem exists_packageNames (m : MemorySegment) (p : PackageNames) :
    ∃ names, packageNames m.segment p = .ok names ∧ ∀ name, name ∈ names ↔
      ∃ text, Term.mk p.field text ∈ m.dictionary.keys ∧
        Text.startsWith text p.leading = true ∧ p.nameOf text = name :=
  ⟨OrderedSet.ofList (walkTerms p.classify (m.termsFrom p.startTerm)), rfl, fun _ =>
    OrderedSet.mem_ofList.trans mem_walkTerms_classify⟩

/-- **Names of the first level cover all names.** In every segment in memory the whole names are the
packages that begin with the leading text. Each name of the first level begins with it too, has no
dot behind the first character below it, and is a package or has one under it. The packages at or
under the names of the first level are all whole names and nothing else. -/
theorem directNames_cover (docs : List (List Term)) (field : String) (leading : Option String) :
    ∃ direct all,
      packageNames (ofDocuments docs).segment (PackageNames.under field leading true) =
        .ok direct ∧
      packageNames (ofDocuments docs).segment (PackageNames.under field leading false) = .ok all ∧
      (∀ q, q ∈ all ↔ (∃ terms ∈ docs, Term.mk field q ∈ terms) ∧
        Text.startsWith q (leading.getD "") = true) ∧
      (∀ n ∈ direct, Text.startsWith n (leading.getD "") = true ∧
        '.' ∉ n.toList.drop ((leading.getD "").toList.length + 1) ∧
        (n ∈ all ∨ ∃ q ∈ all, Text.startsWith q (n ++ ".") = true)) ∧
      ∀ q, q ∈ all ↔ (∃ terms ∈ docs, Term.mk field q ∈ terms) ∧ ∃ n ∈ direct, AtOrUnder n q := by
  obtain ⟨direct, hdirect, hcut⟩ :=
    (ofDocuments docs).exists_packageNames (.under field leading true)
  obtain ⟨all, hall, hwhole⟩ := (ofDocuments docs).exists_packageNames (.under field leading false)
  -- both listings walk the same texts; one names each by its cut, the other by itself
  have hcut : ∀ n, n ∈ direct ↔ ∃ q, Term.mk field q ∈ (ofDocuments docs).dictionary.keys ∧
      Text.startsWith q (leading.getD "") = true ∧
      Cut (leading.getD "").toList q.toList n.toList := fun n =>
    (hcut n).trans (exists_congr fun q => and_congr_right fun _ => and_congr_right fun hstarts =>
      PackageNames.nameOf_eq_iff hstarts)
  have hwhole : ∀ q, q ∈ all ↔ Term.mk field q ∈ (ofDocuments docs).dictionary.keys ∧
      Text.startsWith q (leading.getD "") = true := fun q =>
    (hwhole q).trans ⟨fun ⟨_, hkey, hstarts, he⟩ => he ▸ ⟨hkey, hstarts⟩,
      fun ⟨hkey, hstarts⟩ => ⟨q, hkey, hstarts, rfl⟩⟩
  refine ⟨direct, all, hdirect, hall, fun q => by rw [← mem_keys_iff, hwhole], fun n hn => ?_,
    fun q => ?_⟩
  · obtain ⟨q, hkey, hstarts, hq⟩ := (hcut n).mp hn
    have hqall : q ∈ all := (hwhole q).mpr ⟨hkey, hstarts⟩
    refine ⟨Text.startsWith_iff.mpr hq.startsWith, hq.oneLevel, ?_⟩
    rcases atOrUnder_iff.mpr hq.atOrUnder with rfl | hunder
    · exact .inl hqall
    · exact .inr ⟨q, hqall, hunder⟩
  · rw [← mem_keys_iff, hwhole]
    refine and_congr_right fun hkey => ⟨fun hstarts => ?_, ?_⟩
    · obtain ⟨n, hn⟩ := PackageNames.exists_cut hstarts
      exact ⟨n, (hcut n).mpr ⟨q, hkey, hstarts, hn⟩, atOrUnder_iff.mpr hn.atOrUnder⟩
    · rintro ⟨n, hn, hunder⟩
      obtain ⟨_, -, -, hq⟩ := (hcut n).mp hn
      exact hunder.startsWith (Text.startsWith_iff.mpr hq.startsWith)

/-- A package, one two levels below it, and one that begins as the first does, beside a term of
another field. -/
def nestedPackages : List (List Term) :=
  [[⟨"p", "com.foo"⟩], [⟨"p", "com.foo.bar.Baz"⟩, ⟨"q", "com.foo.X"⟩], [⟨"p", "com.fop"⟩]]

theorem directNames_cover_nested : ∃ direct all,
    packageNames (ofDocuments nestedPackages).segment (.under "p" (some "com.foo") true) =
      .ok direct ∧
    packageNames (ofDocuments nestedPackages).segment (.under "p" (some "com.foo") false) =
      .ok all ∧
    "com.foo.bar" ∈ direct ∧ (∃ q ∈ all, Text.startsWith q "com.foo.bar." = true) ∧
    "com.fop" ∉ all ∧ "com.foo.bar.Baz" ∈ all ∧ ∃ n ∈ direct, AtOrUnder n "com.foo.bar.Baz" := by
  obtain ⟨direct, all, hdirect, hall, hwhole, hlevel, hcover⟩ :=
    directNames_cover nestedPackages "p" (some "com.foo")
  have hbar : "com.foo.bar" ∈ direct := by
    cases hdirect
    decide
  have hnot : "com.foo.bar" ∉ all := fun h => by
    have hstored := ((hwhole _).mp h).1
    revert hstored
    decide
  have hbaz : "com.foo.bar.Baz" ∈ all := (hwhole _).mpr (by decide)
  have hfop : "com.fop" ∉ all := fun h => absurd ((hwhole _).mp h).2 (by decide)
  exact ⟨direct, all, hdirect, hall, hbar, (hlevel _ hbar).2.2.resolve_left hnot, hfop, hbaz,
    ((hcover _).mp hbaz).2⟩

end MemorySegment

end UsageIndex
