import Mathlib.Data.List.TakeWhile
import UsageIndex.Packages

/-!
# Slices of texts

A text is held in UTF-8 and sliced at byte offsets. There is no slice at an offset that lies inside
the encoding of a character or behind the text. A package name is cut by slices: one at the end of
the leading text and one at the dot that was found behind it. Both are always there, and what they
leave is the name told in characters.

* **`Text.splitAtByte?_byteLength`**: a text can be sliced behind any text that it begins with.
* **`PackageNames.classifyBySlices?_eq`**: no text of the dictionary makes a slice fail.
* **`packageNamesBySlices?_eq`**: the package names of any segment are read without such a failure.
-/

namespace UsageIndex

namespace Text

/-! ## Byte offsets -/

/-- The number of bytes of an encoded text. -/
def byteLength : List Char → Nat
  | [] => 0
  | c :: cs => c.utf8Size + byteLength cs

/-- The two slices of a text at a byte offset; none if the offset lies inside the encoding of a
character or behind the text. -/
def splitAtByte? : Nat → List Char → Option (List Char × List Char)
  | 0, cs => some ([], cs)
  | _ + 1, [] => none
  | n + 1, c :: cs =>
    if c.utf8Size ≤ n + 1 then
      (splitAtByte? (n + 1 - c.utf8Size) cs).map fun s => (c :: s.1, s.2)
    else none

/-- The characters of a text, each with its byte offset. -/
def charOffsets : Nat → List Char → List (Nat × Char)
  | _, [] => []
  | n, c :: cs => (n, c) :: charOffsets (n + c.utf8Size) cs

theorem byteLength_append (cs ds : List Char) :
    byteLength (cs ++ ds) = byteLength cs + byteLength ds := by
  induction cs with
  | nil => exact (Nat.zero_add _).symm
  | cons c cs ih => rw [List.cons_append, byteLength, byteLength, ih, Nat.add_assoc]

theorem utf8ByteSize_eq (t : String) : t.utf8ByteSize = byteLength t.toList := by
  have hofList : ∀ cs, (String.ofList cs).utf8ByteSize = byteLength cs := by
    intro cs
    induction cs with
    | nil => rfl
    | cons c cs ih => rw [String.ofList_cons, String.utf8ByteSize_append,
        String.utf8ByteSize_singleton, ih, byteLength]
  rw [← hofList, String.ofList_toList]

/-- **A text can be sliced behind any text that it begins with.** -/
theorem splitAtByte?_byteLength (cs ds : List Char) :
    splitAtByte? (byteLength cs) (cs ++ ds) = some (cs, ds) := by
  induction cs with
  | nil => simp [byteLength, splitAtByte?]
  | cons c cs ih =>
    have hpos : 0 < c.utf8Size := Char.utf8Size_pos c
    obtain ⟨n, hn⟩ : ∃ n, byteLength (c :: cs) = n + 1 :=
      Nat.exists_eq_add_one_of_ne_zero (by rw [byteLength]; omega)
    have hrest : n + 1 - c.utf8Size = byteLength cs := by
      rw [← hn, byteLength, Nat.add_sub_cancel_left]
    have hle : c.utf8Size ≤ n + 1 := by
      rw [← hn, byteLength]
      exact Nat.le_add_right _ _
    rw [hn, List.cons_append, splitAtByte?, if_pos hle, hrest, ih]
    rfl

/-- The first place of a character, told in bytes. -/
theorem find?_charOffsets (a : Char) (n : Nat) (cs : List Char) :
    (charOffsets n cs).find? (fun p => p.2 == a) =
      if a ∈ cs then some (n + byteLength (cs.takeWhile (· != a)), a) else none := by
  induction cs generalizing n with
  | nil => rfl
  | cons c cs ih =>
    by_cases hc : c = a
    · subst hc
      simp [charOffsets, byteLength]
    · have htake : (c :: cs).takeWhile (· != a) = c :: cs.takeWhile (· != a) :=
        List.takeWhile_cons_of_pos (by simpa using hc)
      rw [charOffsets, List.find?_cons_of_neg (by simpa using hc), ih, htake, byteLength,
        Nat.add_assoc]
      simp only [List.mem_cons, Ne.symm hc, false_or]

end Text

namespace PackageNames

/-! ## Names by slices -/

theorem cutBelow_length (cs : List Char) : cutBelow cs.length cs = cs := by
  simp [cutBelow, List.take_of_length_le, List.drop_of_length_le]

/-- The character behind the leading text belongs to the name. -/
theorem cutBelow_append_cons (cs : List Char) (c : Char) (ds : List Char) :
    cutBelow cs.length (cs ++ c :: ds) = cs ++ c :: ds.takeWhile (· != '.') := by
  have hlength : cs.length + 1 = (cs ++ [c]).length := by simp
  rw [cutBelow, List.append_cons cs c ds, hlength, List.take_left, List.drop_left]
  exact (List.append_cons cs c _).symm

theorem takeWhile_not_dot {cs : List Char} (h : '.' ∉ cs) : cs.takeWhile (· != '.') = cs := by
  rw [List.takeWhile_eq_self_iff]
  intro c hc
  exact bne_iff_ne.mpr (ne_of_mem_of_not_mem hc h)

/-- The name that a text gives, cut by slices: behind the leading text, the dots from the second
character on are looked for. -/
def nameBySlices? (p : PackageNames) (text : String) : Option String := do
  let s ← Text.splitAtByte? p.leading.utf8ByteSize text.toList
  match ((Text.charOffsets 0 s.2).drop 1).find? fun c => c.2 == '.' with
  | some c => do
    let s' ← Text.splitAtByte? (p.leading.utf8ByteSize + c.1) text.toList
    return String.ofList s'.1
  | none => return text

/-- What a term says, with the name cut by slices; none if there is no such slice. -/
def classifyBySlices? (p : PackageNames) (t : Term) : Option (TermStep String) :=
  if t.field != p.field then some .stop
  else if !p.leading.isEmpty && !Text.startsWith t.text p.leading then some .skip
  else if p.directOnly then (p.nameBySlices? t.text).map .produce
  else some (.produce t.text)

theorem nameBySlices?_eq {p : PackageNames} {text : String}
    (h : Text.startsWith text p.leading = true) :
    p.nameBySlices? text = some (String.ofList (cutBelow p.leading.toList.length text.toList)) := by
  obtain ⟨below, hbelow⟩ := Text.startsWith_iff.mp h
  unfold nameBySlices?
  rw [Text.utf8ByteSize_eq, ← hbelow, Text.splitAtByte?_byteLength]
  cases below with
  | nil =>
    rw [List.append_nil] at hbelow
    rw [List.append_nil, cutBelow_length, hbelow, String.ofList_toList]
    rfl
  | cons c cs =>
    rw [cutBelow_append_cons]
    simp only [Option.bind_eq_bind, Option.bind_some, Text.charOffsets, List.drop_succ_cons,
      List.drop_zero, Text.find?_charOffsets]
    by_cases hdot : '.' ∈ cs
    · -- the slice ends behind the characters before the dot
      have hsplit : p.leading.toList ++ c :: cs =
          (p.leading.toList ++ c :: cs.takeWhile (· != '.')) ++ cs.dropWhile (· != '.') := by
        simp [List.takeWhile_append_dropWhile]
      have hoffset : Text.byteLength p.leading.toList +
          (0 + c.utf8Size + Text.byteLength (cs.takeWhile (· != '.'))) =
          Text.byteLength (p.leading.toList ++ c :: cs.takeWhile (· != '.')) := by
        rw [Text.byteLength_append, Text.byteLength, Nat.zero_add]
      rw [if_pos hdot]
      simp only [hoffset]
      rw [hsplit, Text.splitAtByte?_byteLength]
      rfl
    · rw [if_neg hdot, takeWhile_not_dot hdot, hbelow, String.ofList_toList]
      rfl

/-- **No slice fails.** Whatever the leading text and the term, the slices that cut the name are
there, and what they leave is what the term says. -/
theorem classifyBySlices?_eq (p : PackageNames) (t : Term) :
    p.classifyBySlices? t = some (p.classify t) := by
  have hleading : (!p.leading.isEmpty && !Text.startsWith t.text p.leading) =
      !Text.startsWith t.text p.leading := by
    by_cases he : p.leading = ""
    · rw [he, Text.startsWith_empty]
      rfl
    · simp [he]
  unfold classifyBySlices? classify nameOf
  rw [hleading]
  by_cases hf : (t.field != p.field) = true
  · rw [if_pos hf, if_pos hf]
  · rw [if_neg hf, if_neg hf]
    by_cases hs : Text.startsWith t.text p.leading = true
    · rw [hs]
      cases p.directOnly with
      | true => simp [nameBySlices?_eq hs]
      | false => simp
    · simp [hs]

end PackageNames

/-! ## The walk over the dictionary -/

/-- The values of a walk whose step function may have no answer; none if the walk comes to a term
without one. -/
def walkTerms? {α : Type} (f : Term → Option (TermStep α)) : List Term → Option (List α)
  | [] => some []
  | t :: ts =>
    match f t with
    | some (.produce a) => (walkTerms? f ts).map (a :: ·)
    | some .skip => walkTerms? f ts
    | some .stop => some []
    | none => none

theorem walkTerms?_eq {α : Type} {f : Term → Option (TermStep α)} {g : Term → TermStep α}
    (h : ∀ t, f t = some (g t)) (ts : List Term) : walkTerms? f ts = some (walkTerms g ts) := by
  induction ts with
  | nil => rw [walkTerms?, walkTerms_nil]
  | cons t ts ih =>
    rw [walkTerms?, walkTerms_cons, h, ih]
    cases g t <;> rfl

/-- The package names of a segment, cut by slices; none if there is no such slice. -/
def packageNamesBySlices? (s : Segment) (p : PackageNames) :
    Option (Except Error (OrderedSet String)) :=
  match s.termsFrom p.startTerm with
  | .ok terms =>
    (walkTerms? p.classifyBySlices? terms).map fun names => .ok (OrderedSet.ofList names)
  | .error e => some (.error e)

/-- **No slice fails in any segment.** -/
theorem packageNamesBySlices?_eq (s : Segment) (p : PackageNames) :
    packageNamesBySlices? s p = some (packageNames s p) := by
  unfold packageNamesBySlices? packageNames
  cases s.termsFrom p.startTerm with
  | ok terms => simp only [walkTerms?_eq p.classifyBySlices?_eq, Option.map_some]
  | error e => rfl

end UsageIndex
