import UsageIndex.Command.Arguments
import UsageIndex.Scope

/-!
# Requests

What the commands ask for. `usages` and `package-usages` search, `packages` lists the packages of an
index, and `inspect` describes it. Every command names the listing of the index.

* **`Request.ofArguments`**: the request that arguments make.
-/

namespace UsageIndex.Command

/-- Where the index comes from. -/
structure IndexSource where
  /-- The path of the listing. -/
  listing : String
  /-- The path of the options, if they are not the standard ones. -/
  config : Option String
  deriving DecidableEq

/-- What the documents have to refer to. -/
inductive Target where
  /-- A name. -/
  | name (s : String)
  /-- A name directly in a package. -/
  | package (s : String)
  deriving DecidableEq

/-- The name of a target. -/
def Target.text : Target → String
  | name s => s
  | package s => s

/-- How to search. -/
structure SearchTerms where
  /-- The kinds of use, with commas between them. -/
  kinds : String
  /-- The name of the operator. -/
  operator : String
  /-- The packages that the search is restricted to; without any it is not. -/
  packages : List String
  base : BaseScope
  deriving DecidableEq

/-- The scope of a search. -/
def SearchTerms.scope (t : SearchTerms) : List ScopeElement :=
  if t.packages.isEmpty then [ScopeElement.whole t.base]
  else [ScopeElement.narrowed t.base t.packages]

/-- What a command asks for. -/
inductive Request where
  | usages (source : IndexSource) (terms : SearchTerms) (target : Target)
  | packages (source : IndexSource) (leading : Option String) (directOnly : Bool)
  | inspect (source : IndexSource) (verbose : Bool)
  deriving DecidableEq

namespace Request

/-- Where the index of a request comes from. -/
def source : Request → IndexSource
  | usages s .. => s
  | packages s .. => s
  | inspect s .. => s

/-- The switch that asks for help. -/
def helpSwitch : Switch := ⟨"help", some 'h', .help⟩

/-- The switch that asks for the version. -/
def versionSwitch : Switch := ⟨"version", some 'V', .version⟩

/-- The switches of every command. -/
def sourceSwitches : List Switch :=
  [⟨"index", some 'i', .path⟩, ⟨"config", none, .path⟩, helpSwitch]

/-- The switches of the commands that search. -/
def searchSwitches : List Switch :=
  sourceSwitches ++ [⟨"kinds", some 'k', .text⟩, ⟨"operator", none, .text⟩,
    ⟨"in-package", none, .texts⟩, ⟨"dependencies", none, .flag⟩]

/-- The switches of the command that lists packages. -/
def packagesSwitches : List Switch :=
  sourceSwitches ++ [⟨"prefix", none, .text⟩, ⟨"direct-only", none, .flag⟩]

/-- The switches of the command that describes an index. -/
def inspectSwitches : List Switch := sourceSwitches ++ [⟨"verbose", some 'v', .flags⟩]

/-- Where the index comes from, as it is given. -/
def sourceOf (g : Given) : Except Stop IndexSource :=
  match g.value? "index" with
  | some path => .ok ⟨path, g.value? "config"⟩
  | none => .error .misuse

/-- How to search, as it is given. -/
def termsOf (g : Given) : SearchTerms where
  kinds := (g.value? "kinds").getD "all"
  operator := (g.value? "operator").getD "should"
  packages := g.values "in-package"
  base := if g.has "dependencies" then .dependencies else .source

/-- The request of a command that searches. -/
def search (target : String → Target) (args : List String) : Except Stop Request := do
  let g ← Given.ofArguments searchSwitches 1 args
  let source ← sourceOf g
  match g.operands with
  | t :: _ => return .usages source (termsOf g) (target t)
  | [] => .error .misuse

/-- The request of the command that lists packages. -/
def listPackages (args : List String) : Except Stop Request := do
  let g ← Given.ofArguments packagesSwitches 0 args
  let source ← sourceOf g
  return .packages source (g.value? "prefix") (g.has "direct-only")

/-- The request of the command that describes an index. -/
def describe (args : List String) : Except Stop Request := do
  let g ← Given.ofArguments inspectSwitches 0 args
  let source ← sourceOf g
  return .inspect source (g.has "verbose")

/-- The commands, each with what reads its arguments. -/
def commands : List (String × (List String → Except Stop Request)) :=
  [("usages", search .name), ("package-usages", search .package), ("packages", listPackages),
    ("inspect", describe)]

/-- The request for help that the arguments behind `help` make: they may name one command. -/
def help : List String → Except Stop Request
  | [] => .error .help
  | [c] => if c = "help" ∨ (commands.lookup c).isSome then .error .help else .error .misuse
  | _ => .error .misuse

/-- The request that arguments make: the first is the command, or a switch that asks for help or
for the version. -/
def ofArguments : List String → Except Stop Request
  | [] => .error .misuse
  | c :: args =>
    match commands.lookup c with
    | some read => read args
    | none =>
      if c = "help" then help args
      else
        match events [helpSwitch, versionSwitch] [c] with
        | .switch s _ :: _ => .error (if s.form = .version then .version else .help)
        | _ => .error .misuse

end Request

end UsageIndex.Command
