/-
Module: SqlTidy.CommandLine.Goldens
Purpose: The command that compares formatted examples with their golden files, or writes those.
Main exports: Goldens.Example, Goldens.examples, Goldens.check, Goldens.run
-/
import SqlTidy.CommandLine.Run
import SqlTidy.Files.Tree
import SqlTidy.Options
import SqlTidy.Text.Order

namespace SqlTidy.CommandLine.Goldens

/-- The option for the directory of the examples. -/
def examplesOption : OptionSpec := ⟨["--examples"], true⟩

/-- The option that asks for golden files to be written. -/
def updateOption : OptionSpec := ⟨["--update"], false⟩

/-- The usage of the command. -/
def usage : String :=
  "usage: check_goldens [-h] [--examples EXAMPLES] [--update]\n"

/-- The help of the command. -/
def help : String :=
  usage ++ "\n" ++
  "options:\n" ++
  "  -h, --help           show this help message and exit\n" ++
  "  --examples EXAMPLES  Directory holding *.sql examples.\n" ++
  "  --update             Rewrite goldens from current output.\n"

/-- The command in messages. -/
def program : Program :=
  { name := "check_goldens", usage, help }

/-- What the options of a command line ask for; no directory, if its option was given without a
value. -/
structure Flags where
  examples : Option (List Char)
  update : Bool := false
deriving Repr, DecidableEq

/-- What is asked for by no options: the examples are those of the project, which is at home in a
directory. -/
def usual (home : Path) : Flags :=
  { examples := some (home.child { text := "Examples".toList }).text }

/-- What each option does. -/
def act (flags : Flags) (spec : OptionSpec) (value : Option (List Char)) : Except Stop Flags :=
  if spec == helpOption then .error .help
  else if spec == examplesOption then .ok { flags with examples := value }
  else .ok { flags with update := true }

/-- The grammar of the command line. -/
def grammar : Grammar Flags :=
  { options := [helpOption, examplesOption, updateOption], act, hasInputs := false }

/-- An example: an entry of a directory. -/
structure Example where
  directory : Path
  name : FileName
deriving Repr, DecidableEq

namespace Example

/-- The path of an example. -/
def path (query : Example) : Path :=
  query.directory.child query.name.toSegment

/-- The name of the golden file of an example. -/
def goldenName (query : Example) : Segment :=
  query.name.append { text := ".golden".toList }

/-- The path of the golden file of an example. -/
def goldenPath (query : Example) : Path :=
  query.directory.child query.goldenName

end Example

/-- The examples in a directory: every entry whose name ends in `.sql`, in order. -/
def examples (tree : FileTree) (directory : Path) : List Example :=
  (((tree.entries directory).filter fun name => ".sql".toList.isSuffixOf name.text).mergeSort
    fun name other => Text.textNotAfter name.text other.text).map fun name => ⟨directory, name⟩

/-- The text of a query, formatted with the usual options, and a line feed at the end. -/
def render (tree : FileTree) (path : Path) : Except Fault (List Char) := do
  let query ← (tree.view.readText path).mapError fun error => error.fault path
  let text ← Options.format {} query
  return text ++ ['\n']

/-- What the check of an example leaves behind: the tree, what it prints, and whether all is
well. -/
structure Verdict where
  tree : FileTree
  output : String
  passed : Bool
deriving Repr, DecidableEq

/-- The command that a complaint advises. -/
def updateAdvice : String :=
  "python scripts/check_goldens.py --update"

/-- Writes the golden file of an example. -/
def update (tree : FileTree) (query : Example) : Except Fault Verdict := do
  let text ← render tree query.path
  let golden := query.goldenPath
  let tree ← (tree.write golden (Utf8.encode text)).mapError fun error => .file error golden
  return ⟨tree, "[UPDATED] " ++ String.ofList query.goldenName.text ++ "\n", true⟩

/-- Compares an example with its golden file. -/
def check (tree : FileTree) (query : Example) : Except Fault Verdict := do
  let text ← render tree query.path
  let golden := query.goldenPath
  match ← (tree.view.probe golden).mapError fun error => .file error golden with
  | none =>
      return ⟨tree, "[ERROR] Missing golden: " ++ String.ofList golden.text ++ ". Create via: " ++
        updateAdvice ++ "\n", false⟩
  | some _ =>
      let expected ← (tree.view.readText golden).mapError fun error => error.fault golden
      if expected == text then
        return ⟨tree, "[OK] " ++ String.ofList query.name.text ++ " matches golden.\n", true⟩
      else
        return ⟨tree, "[FAIL] Output changed for " ++ String.ofList query.name.text ++ ".\n" ++
          "       Review, then update via: " ++ updateAdvice ++ "\n", false⟩

/-- Goes through the examples one by one.  A fault ends the run, and what was done before stays
done. -/
def visit (step : FileTree → Example → Except Fault Verdict) (sofar : Verdict) :
    List Example → Run × FileTree
  | [] => ({ ending := .exit (if sofar.passed then 0 else 1), stdout := sofar.output }, sofar.tree)
  | query :: rest =>
      match step sofar.tree query with
      | .error fault => (.ofFault fault sofar.output, sofar.tree)
      | .ok verdict =>
          visit step
            ⟨verdict.tree, sofar.output ++ verdict.output, sofar.passed && verdict.passed⟩ rest

/-- Runs the command of a project, which may change the tree. -/
def run (home : Path) (tree : FileTree) (arguments : List (List Char)) : Run × FileTree :=
  match grammar.parse (usual home) arguments with
  | .error stop => (program.stop stop, tree)
  | .ok (⟨none, _⟩, _) => (.ofFault .noPath "", tree)
  | .ok (⟨some directory, updating⟩, _) =>
      let directory := Path.ofText directory
      match tree.view.probe directory with
      | .error error => (.ofFault (.file error directory) "", tree)
      | .ok none =>
          ({ ending := .exit 1
             stdout := "[ERROR] " ++ String.ofList directory.text ++ " not found.\n" }, tree)
      | .ok (some _) =>
          visit (if updating then update else check) ⟨tree, "", true⟩
            (examples tree directory)

end SqlTidy.CommandLine.Goldens
