import RuleEngine.CommandLine.Program

/-!
# The executable

Reads the files that the arguments name, runs the program on their texts, and
prints what it says.
-/

open RuleEngine

/-- The text of a file, if it can be read. -/
def readText? (path : String) : IO (Option String) := do
  try
    let text ← IO.FS.readFile path
    return some text
  catch _ => return none

/-- Runs the program on its arguments. -/
def main (args : List String) : IO UInt32 := do
  let request := Request.ofArgs args
  let paths :=
    match request with
    | .run i => i.paths
    | _ => []
  let texts ← paths.mapM fun path => return (path, ← readText? path)
  let outcome := CommandLine.runRequest (fun path => (texts.lookup path).join) request
  IO.print outcome.output
  match outcome.failure with
  | some failure => IO.eprint failure.report
  | none => if outcome.exitCode ≠ 0 then IO.eprint CommandLine.helpText
  return UInt32.ofNat outcome.exitCode
