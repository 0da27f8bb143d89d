import UsageIndex.Segment

/-!
# Segments with faults

`Segment.withFaults` puts faults over a segment: reads that fail, postings that are replaced and a
document count that is replaced. A read that fails tells which read it was. The faults show which
reads a search makes: a read that is not made cannot fail.
-/

namespace UsageIndex

/-- What is wrong with a segment. -/
structure Faults where
  /-- The fields whose postings cannot be read. -/
  postingsFields : List String
  /-- The terms whose postings cannot be read. -/
  postingsTerms : List Term
  /-- The fields from whose terms on the dictionary cannot be read. -/
  termsFields : List String
  /-- What every postings list that can be read is replaced by. -/
  postings : Option (List Nat)
  /-- What the document count is replaced by. -/
  maxDoc : Option Nat

namespace Faults

/-- Nothing is wrong. -/
def none : Faults := ⟨[], [], [], .none, .none⟩

/-- Whether the postings of a term cannot be read. -/
def breaksPostings (f : Faults) (t : Term) : Bool :=
  decide (t.field ∈ f.postingsFields) || decide (t ∈ f.postingsTerms)

/-- Whether the dictionary cannot be read from a term on. -/
def breaksTerms (f : Faults) (start : Term) : Bool := decide (start.field ∈ f.termsFields)

end Faults

/-- A segment with faults over it. -/
def Segment.withFaults (s : Segment) (f : Faults) : Segment where
  maxDoc := f.maxDoc.getD s.maxDoc
  postings t :=
    if f.breaksPostings t then .error (.indexUnavailable ("postings of " ++ t.shown) "fault")
    else match f.postings with
      | some docs => .ok docs
      | .none => s.postings t
  termsFrom start :=
    if f.breaksTerms start then .error (.indexUnavailable ("terms from " ++ start.shown) "fault")
    else s.termsFrom start

end UsageIndex
