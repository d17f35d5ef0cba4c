/-
Module: SqlTidy.Main
Purpose: The command line of the formatter.
Main exports: main
-/
import SqlTidy.CommandLine.Formatter

namespace SqlTidy.CommandLine

/-!
Everything that a run depends on is read first: the paths that its command line leads to, and
standard input if it is asked for.  The run itself is then a value, and only its texts and its exit
code are left to be passed on.
-/

/-- The fault behind an error of the file system, if it is one of the faults of a path. -/
def fileError? : IO.Error → Option FileError
  | .noFileOrDirectory _ _ _ => some .missing
  | .inappropriateType _ code _ => some (if code == 21 then .isDirectory else .notDirectory)
  | .invalidArgument _ _ _ => some .nameTooLong
  | _ => none

/-- Looks at what a path leads to. -/
def observe (path : Path) : IO (Except FileError Entry) := do
  if path.text.contains (Char.ofNat 0) then
    return .error .nulInName
  try
    let bytes ← IO.FS.readBinFile ⟨String.ofList path.text⟩
    return .ok (.file bytes.toList)
  catch error =>
    match fileError? error with
    | some .isDirectory => return .ok .directory
    | some fault => return .error fault
    | none => throw error

/-- The view of the files that the paths lead to. -/
def observeAll (paths : List Path) : IO FileView := do
  let seen ← paths.mapM fun path => return (path, ← observe path)
  return ⟨fun path => (seen.lookup path).getD (.error .missing)⟩

/-- Passes on what a run leaves behind, and gives its exit code. -/
def deliver (run : Run) : IO UInt32 := do
  (← IO.getStdout).putStr run.stdout
  (← IO.getStderr).putStr run.stderr
  match run.ending with
  | .exit code => return code.toUInt32
  | .failure fault =>
      IO.eprintln fault.message
      return 1

end SqlTidy.CommandLine

/-- Formats the query that the command line asks for. -/
def main (arguments : List String) : IO UInt32 := do
  let arguments := arguments.map String.toList
  let stdin ← IO.getStdin
  let terminal ← stdin.isTty
  let demand := SqlTidy.CommandLine.Formatter.demand terminal arguments
  let view ← SqlTidy.CommandLine.observeAll demand.paths
  let input ← if demand.stdin then stdin.readBinToEnd else pure .empty
  SqlTidy.CommandLine.deliver
    (SqlTidy.CommandLine.Formatter.run view input.toList terminal arguments)
