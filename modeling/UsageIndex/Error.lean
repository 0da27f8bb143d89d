/-!
# Errors and broken preconditions

* **`Error`**: what a call reports to its caller. `Error.message` is the text of each, and
  `Error.isCallerError` tells the conditions that the caller brought about.
* **`Violation`**: a precondition that the caller of a total operation was bound to. A violated
  precondition is a mistake in the program, not an answer, and it is kept apart from the errors.
* **`Failure`**: one or the other.
* `verifyArgument` and `verifyData` turn a failed check into an error that shows the condition.
-/

namespace UsageIndex

/-- What a call reports when it has no result. -/
inductive Error where
  /-- An argument the caller passed does not meet a condition. -/
  | invalidArgument (name message : String)
  /-- The operation cannot be carried out now. -/
  | invalidOperation (name : String)
  /-- A match pattern is not well formed. -/
  | invalidPattern (pattern source : String)
  /-- Postings or the dictionary of the index could not be read. -/
  | indexUnavailable (context source : String)
  /-- Data that was read does not have the form it must have. -/
  | invalidFormat (element message : String)
  /-- A file could not be read. -/
  | io (context source : String)
  deriving DecidableEq

namespace Error

/-- The text of an error. -/
def message : Error → String
  | invalidArgument name message => "invalid argument " ++ name ++ ": " ++ message
  | invalidOperation name => "invalid operation " ++ name
  | invalidPattern pattern source => "invalid match pattern '" ++ pattern ++ "': " ++ source
  | indexUnavailable context source => "index unavailable: " ++ context ++ ": " ++ source
  | invalidFormat element message => "invalid format for '" ++ element ++ "': " ++ message
  | io context source => "IO error for '" ++ context ++ "': " ++ source ++ "'"

/-- Whether the caller brought the condition about, by a bad argument or a bad pattern. -/
def isCallerError : Error → Bool
  | invalidArgument .. | invalidPattern .. => true
  | _ => false

/-- The error of a file operation that is not tied to a file. -/
def ofIo (source : String) : Error := io "" source

end Error

/-- Passes when a condition on an argument holds, and otherwise shows the condition. -/
def verifyArgument (holds : Bool) (name condition : String) : Except Error Unit :=
  if holds then .ok () else .error (.invalidArgument name condition)

/-- Passes when a condition on data holds, and otherwise shows the condition. -/
def verifyData (holds : Bool) (element condition : String) : Except Error Unit :=
  if holds then .ok () else .error (.invalidFormat element condition)

/-- A precondition that was broken. -/
inductive Violation where
  /-- Two sets of documents over different spans were combined. -/
  | spanMismatch (left right : Nat)
  /-- A document at or beyond the span was marked. -/
  | outOfSpan (doc span : Nat)
  deriving DecidableEq

/-- The text that tells of a document outside the span. -/
def outOfSpanText (doc span : Nat) : String :=
  "doc id " ++ toString doc ++ " out of span " ++ toString span

/-- The text of a broken precondition. -/
def Violation.message : Violation → String
  | spanMismatch left right =>
    "sets of documents with spans " ++ toString left ++ " and " ++ toString right
  | outOfSpan doc span => outOfSpanText doc span

/-- Why a computation has no result. -/
inductive Failure where
  | error (e : Error)
  | violation (v : Violation)
  deriving DecidableEq

/-- The text that tells why a computation has no result. -/
def Failure.message : Failure → String
  | error e => e.message
  | violation v => v.message

/-- A computation that may report an error, as one that may also break a precondition. -/
def orError {α : Type} : Except Error α → Except Failure α
  | .ok a => .ok a
  | .error e => .error (.error e)

/-- A computation that may break a precondition, as one that may also report an error. -/
def orViolation {α : Type} : Except Violation α → Except Failure α
  | .ok a => .ok a
  | .error v => .error (.violation v)

@[simp] theorem orError_eq_ok {α : Type} {x : Except Error α} {a : α} :
    orError x = .ok a ↔ x = .ok a := by
  cases x <;> simp [orError]

@[simp] theorem orError_eq_error {α : Type} {x : Except Error α} {f : Failure} :
    orError x = .error f ↔ ∃ e, x = .error e ∧ f = .error e := by
  cases x <;> simp [orError, eq_comm]

end UsageIndex
