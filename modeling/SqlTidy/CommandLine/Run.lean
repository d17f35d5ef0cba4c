/-
Module: SqlTidy.CommandLine.Run
Purpose: What a run of a program leaves behind.
Main exports: Ending, Run
-/
import SqlTidy.CommandLine.Grammar
import SqlTidy.Fault

namespace SqlTidy.CommandLine

/-- How a run ends: with an exit code, or with a fault that nothing handles. -/
inductive Ending where
  | exit (code : Nat)
  | failure (fault : Fault)
deriving Repr, DecidableEq

/-- What a run leaves behind. -/
structure Run where
  ending : Ending
  stdout : String := ""
  stderr : String := ""
deriving Repr, DecidableEq

/-- A program as its messages show it: its name, its usage and its full help, each ending its last
line. -/
structure Program where
  name : String
  usage : String
  help : String
  version : String := ""

/-- The run of a program that stops while its command line is read. -/
def Program.stop (program : Program) : Stop → Run
  | .help => { ending := .exit 0, stdout := program.help }
  | .version => { ending := .exit 0, stdout := program.version ++ "\n" }
  | .misuse message =>
      { ending := .exit 2
        stderr := program.usage ++ program.name ++ ": error: " ++ message ++ "\n" }

/-- A run that ends with a fault. -/
def Run.ofFault (fault : Fault) (stdout : String) : Run :=
  { ending := .failure fault, stdout }

end SqlTidy.CommandLine
