import UsageIndex.Command.Run

/-!
# The program

Reads the files that the arguments name, runs the command and prints what it leads to.
-/

open UsageIndex

/-- The contents of a file, if it can be read. -/
def contentsOfFile (path : String) : IO (Option String) := do
  try
    return some (← IO.FS.readFile path)
  catch _ =>
    return none

/-- Runs the command that the arguments make. -/
def main (args : List String) : IO UInt32 := do
  let files ← (Command.paths args).mapM fun p => return (p, ← contentsOfFile p)
  match Command.run (fun p => (files.lookup p).join) args with
  | .printed text =>
    IO.print text
    return 0
  | .failed p =>
    IO.eprintln ("Error: " ++ p.message)
    return 1
  | .misused =>
    IO.eprint Command.helpText
    return 2
