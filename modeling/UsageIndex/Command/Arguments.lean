/-!
# Command arguments

The arguments of a command are switches and operands in any order. A switch has a long name, behind
two hyphens, and perhaps a letter, behind one. A value stands in the next argument, unless that
begins with a hyphen too, or in the same one: behind `=`, or right behind the letter. Letters of
switches without a value may share a hyphen. Two hyphens alone end the switches.

* **`events`**: what the arguments say, in order, up to the first that makes no sense.
* **`Given.ofArguments`**: what is given by them, or why nothing is.
-/

namespace UsageIndex.Command

/-- What a switch takes and how often it may be given. -/
inductive SwitchForm where
  /-- A text, once. -/
  | text
  /-- A text, any number of times. -/
  | texts
  /-- A path, once. It is not empty. -/
  | path
  /-- Nothing, once. -/
  | flag
  /-- Nothing, any number of times. -/
  | flags
  /-- Nothing; it asks for help instead. -/
  | help
  /-- Nothing; it asks for the version instead. -/
  | version
  deriving DecidableEq

/-- A switch. -/
structure Switch where
  long : String
  short : Option Char
  form : SwitchForm
  deriving DecidableEq

namespace Switch

/-- Whether a switch has a value. -/
def takesValue (s : Switch) : Bool := s.form == .text || s.form == .texts || s.form == .path

/-- Whether a switch may be given more than once. -/
def repeatable (s : Switch) : Bool := s.form == .texts || s.form == .flags

/-- Whether a switch can have a value. -/
def accepts (s : Switch) (value : String) : Bool := s.form != .path || !value.isEmpty

end Switch

/-- Why the arguments are no request. -/
inductive Stop where
  /-- Help is asked for. -/
  | help
  /-- The version is asked for. -/
  | version
  /-- The arguments make no sense. -/
  | misuse
  deriving DecidableEq

/-- Something that the arguments say. -/
inductive Event where
  | switch (s : Switch) (value : Option String)
  | operand (text : String)
  /-- An argument that makes no sense. -/
  | misuse
  deriving DecidableEq

/-- How an argument looks. -/
inductive Shape where
  /-- Two hyphens alone. -/
  | endOfSwitches
  /-- A long name, and what is behind it. -/
  | long (body : List Char)
  /-- Letters of switches. -/
  | letters (body : List Char)
  /-- Neither; a hyphen alone is one of these. -/
  | plain
  deriving DecidableEq

/-- How an argument looks. -/
def shape : List Char → Shape
  | ['-', '-'] => .endOfSwitches
  | '-' :: '-' :: body => .long body
  | '-' :: c :: cs => .letters (c :: cs)
  | _ => .plain

/-- What a long name says, and the switch whose value is still to come. -/
def longEvents (switches : List Switch) (body : List Char) : List Event × Option Switch :=
  match switches.find? fun s => s.long == String.ofList (body.takeWhile (· != '=')) with
  | none => ([.misuse], none)
  | some s =>
    match s.takesValue, body.dropWhile (· != '=') with
    | true, [] => ([], some s)
    | true, _ :: v => ([.switch s (some (String.ofList v))], none)
    | false, [] => ([.switch s none], none)
    | false, _ :: _ => ([.misuse], none)

/-- What letters say, and the switch whose value is still to come. -/
def letterEvents (switches : List Switch) : List Char → List Event × Option Switch
  | [] => ([], none)
  | c :: cs =>
    match switches.find? fun s => s.short == some c with
    | none => ([.misuse], none)
    | some s =>
      if s.takesValue then
        match cs with
        | [] => ([], some s)
        | '=' :: v => ([.switch s (some (String.ofList v))], none)
        | v => ([.switch s (some (String.ofList v))], none)
      else
        let r := letterEvents switches cs
        (.switch s none :: r.1, r.2)

/-- What arguments say, where the value of a switch may be due. -/
def eventsFrom (switches : List Switch) : Option Switch → List String → List Event
  | none, [] => []
  | some _, [] => [.misuse]
  | some s, a :: rest =>
    match shape a.toList with
    | .plain => .switch s (some a) :: eventsFrom switches none rest
    | _ => [.misuse]
  | none, a :: rest =>
    match shape a.toList with
    | .plain => .operand a :: eventsFrom switches none rest
    | .endOfSwitches => rest.map .operand
    | .long body =>
      let r := longEvents switches body
      r.1 ++ eventsFrom switches r.2 rest
    | .letters body =>
      let r := letterEvents switches body
      r.1 ++ eventsFrom switches r.2 rest

/-- What arguments say. -/
def events (switches : List Switch) (args : List String) : List Event :=
  eventsFrom switches none args

/-- What is given by arguments. -/
structure Given where
  /-- The long names of the switches, with their values. -/
  switches : List (String × Option String)
  operands : List String
  deriving DecidableEq

namespace Given

/-- Nothing. -/
def nothing : Given := ⟨[], []⟩

/-- Whether a switch is given. -/
def has (g : Given) (long : String) : Bool := g.switches.any fun s => s.1 == long

/-- The values of a switch. -/
def values (g : Given) (long : String) : List String :=
  g.switches.filterMap fun s => if s.1 = long then s.2 else none

/-- The value of a switch that is given at most once. -/
def value? (g : Given) (long : String) : Option String := (g.values long).head?

/-- Takes in what one argument says. -/
def push (g : Given) (maxOperands : Nat) : Event → Except Stop Given
  | .misuse => .error .misuse
  | .operand text =>
    if g.operands.length < maxOperands then .ok { g with operands := g.operands ++ [text] }
    else .error .misuse
  | .switch s value =>
    if s.form = .help then .error .help
    else if s.form = .version then .error .version
    else if g.has s.long && !s.repeatable then .error .misuse
    else if value.all s.accepts then
      .ok { g with switches := g.switches ++ [(s.long, value)] }
    else .error .misuse

/-- Takes in what arguments say. -/
def pushAll (g : Given) (maxOperands : Nat) : List Event → Except Stop Given
  | [] => .ok g
  | e :: es =>
    match g.push maxOperands e with
    | .ok g' => pushAll g' maxOperands es
    | .error s => .error s

/-- What is given by arguments with some switches and a number of operands. -/
def ofArguments (switches : List Switch) (maxOperands : Nat) (args : List String) :
    Except Stop Given :=
  nothing.pushAll maxOperands (events switches args)

end Given

end UsageIndex.Command
