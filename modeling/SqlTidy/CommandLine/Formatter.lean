/-
Module: SqlTidy.CommandLine.Formatter
Purpose: The command that formats a query from its arguments, a file or standard input.
Main exports: Formatter.Flags, Formatter.readInput, Formatter.resolveOptions, Formatter.run,
  Formatter.demand
-/
import SqlTidy.CommandLine.Run
import SqlTidy.Config
import SqlTidy.Number.Numeral

namespace SqlTidy.CommandLine.Formatter

open Json (Value)

/-- The option for the number of spaces per level. -/
def indentOption : OptionSpec := ⟨["--indent"], true⟩

/-- The option for the case of keywords. -/
def caseOption : OptionSpec := ⟨["--keyword-case"], true⟩

/-- The option for a configuration file. -/
def configOption : OptionSpec := ⟨["--config"], true⟩

/-- The option that shows the version. -/
def versionOption : OptionSpec := ⟨["-v", "--version"], false⟩

/-- The version of the command. -/
def version : String := "0.3.0"

/-- The usage of the command. -/
def usage : String :=
  "usage: sql-fmt [-h] [--indent N] [--keyword-case \x7bupper,lower,keep\x7d]\n" ++
  "               [--config PATH] [-v]\n" ++
  "               [INPUT ...]\n"

/-- The help of the command. -/
def help : String :=
  usage ++ "\n" ++
  "Re-case SQL keywords and re-indent the query.\n\n" ++
  "positional arguments:\n" ++
  "  INPUT                 SQL file, quoted SQL text, or '-' for stdin.\n\n" ++
  "options:\n" ++
  "  -h, --help            show this help message and exit\n" ++
  "  --indent N            Number of spaces per indent (default: 2).\n" ++
  "  --keyword-case \x7bupper,lower,keep\x7d\n" ++
  "                        Keyword case: upper | lower | keep (default: upper).\n" ++
  "  --config PATH         JSON config file (indentSize, keywordCase, keywords).\n" ++
  "  -v, --version         show program's version number and exit\n\n" ++
  "input:\n" ++
  "  - pass a filepath to read from disk (UTF-8)\n" ++
  "  - pass a quoted SQL string (several words are joined with spaces)\n" ++
  "  - pass '-' or nothing to read from stdin\n"

/-- The command in messages. -/
def program : Program :=
  { name := "sql-fmt", usage, help, version }

/-- What the options of a command line ask for.  An option that was given without a value asks for
the empty list. -/
structure Flags where
  indent : Value := .null
  casing : Value := .null
  config : Option (List Char) := none

/-- Sets the indent size. -/
def setIndent (flags : Flags) (value : List Char) : Except Stop Flags :=
  match indentSize? value with
  | .ok size => .ok { flags with indent := .int size }
  | .error fault => .error (indentOption.complain fault.message)

/-- Sets the case of keywords, whose name may be given in any case. -/
def setCasing (flags : Flags) (value : List Char) : Except Stop Flags :=
  let name := Text.lower value
  match Casing.names.find? (·.toList == name) with
  | some casing => .ok { flags with casing := .ofString casing }
  | none =>
      let names := ", ".intercalate (Casing.names.map fun name => Text.quotedText name.toList)
      .error (caseOption.complain
        ("invalid choice: " ++ Text.quotedText name ++ " (choose from " ++ names ++ ")"))

/-- What each option does. -/
def act (flags : Flags) (spec : OptionSpec) (value : Option (List Char)) : Except Stop Flags :=
  if spec == helpOption then .error .help
  else if spec == versionOption then .error .version
  else if spec == indentOption then
    match value with
    | some value => setIndent flags value
    | none => .ok { flags with indent := .array [] }
  else if spec == caseOption then
    match value with
    | some value => setCasing flags value
    | none => .ok { flags with casing := .array [] }
  else .ok { flags with config := value }

/-- The grammar of the command line. -/
def grammar : Grammar Flags :=
  { options := [helpOption, indentOption, caseOption, configOption, versionOption]
    act
    hasInputs := true }

/-- The settings that the flags make. -/
def Flags.settings (flags : Flags) : List Setting :=
  [.indentSize flags.indent, .keywordCase flags.casing]

/-- The options of a run: flags go before the configuration file, and that goes before the usual
values.  A path that is empty counts as none. -/
def resolveOptions (view : FileView) (flags : Flags) : Except Fault Options := do
  let base : Options := {}
  let base ←
    match flags.config with
    | none | some [] => pure base
    | some path => Config.load view (.ofText path) base
  base.merge flags.settings

/-- Why there is no query to format. -/
inductive InputFailure where
  | reported (error : InputError)
  | unhandled (fault : Fault)
deriving Repr, DecidableEq

/-- The query: standard input without inputs or for a single dash; else the file that the first
input names; else the inputs themselves, joined by spaces. -/
def readInput (view : FileView) (stdin : List UInt8) (inputs : List (List Char)) :
    Except InputFailure (List Char) :=
  match inputs with
  | [] | [['-']] =>
      (decodeText Utf8.decode stdin).mapError fun error =>
        .unhandled (error.fault (.ofText ['-']))
  | first :: _ =>
      let path := Path.ofText first
      match view.probe path with
      | .error error => .error (.unhandled (.file error path))
      | .ok (some (.file _)) =>
          (view.readText path).mapError fun error =>
            .reported ⟨String.ofList path.text, error.reason⟩
      | .ok _ => .ok (Text.joinWords inputs)

/-- A run that ends with an error for the user. -/
def reportedRun (message : String) : Run :=
  { ending := .exit 1, stderr := program.name ++ ": " ++ message ++ "\n" }

/-- Formats the query that flags and inputs ask for. -/
def formatInput (view : FileView) (stdin : List UInt8) (flags : Flags)
    (inputs : List (List Char)) : Run :=
  match resolveOptions view flags with
  | .error (.config error) => reportedRun ("config error: " ++ error.text)
  | .error fault => .ofFault fault ""
  | .ok options =>
      match readInput view stdin inputs with
      | .error (.reported error) => reportedRun ("error: " ++ error.text)
      | .error (.unhandled fault) => .ofFault fault ""
      | .ok query =>
          match options.format query with
          | .error fault => .ofFault fault ""
          | .ok text => { ending := .exit 0, stdout := String.ofList text ++ "\n" }

/-- Runs the command.  Without inputs, and with a terminal as standard input, it shows its help. -/
def run (view : FileView) (stdin : List UInt8) (terminal : Bool) (arguments : List (List Char)) :
    Run :=
  match grammar.parse {} arguments with
  | .error stop => program.stop stop
  | .ok (flags, inputs) =>
      if inputs.isEmpty && terminal then { ending := .exit 1, stderr := help }
      else formatInput view stdin flags inputs

/-- What a run asks of its surroundings: the paths that it looks at, and whether it reads standard
input. -/
structure Demand where
  paths : List Path
  stdin : Bool
deriving Repr, DecidableEq

/-- What a run with these flags and inputs asks for. -/
def demandOf (flags : Flags) (inputs : List (List Char)) : Demand :=
  let config :=
    match flags.config with
    | none | some [] => []
    | some path => [Path.ofText path]
  match inputs with
  | [] | [['-']] => ⟨config, true⟩
  | first :: _ => ⟨config ++ [Path.ofText first], false⟩

/-- What a run with this command line asks for; a run that stops early asks for nothing. -/
def demand (terminal : Bool) (arguments : List (List Char)) : Demand :=
  match grammar.parse {} arguments with
  | .error _ => ⟨[], false⟩
  | .ok (flags, inputs) =>
      if inputs.isEmpty && terminal then ⟨[], false⟩ else demandOf flags inputs

end SqlTidy.CommandLine.Formatter
