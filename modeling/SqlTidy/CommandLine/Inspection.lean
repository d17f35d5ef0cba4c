/-
Module: SqlTidy.CommandLine.Inspection
Purpose: The command that shows what each stage makes of a file, with the spaces made visible.
Main exports: Inspection.report, Inspection.run
-/
import SqlTidy.CommandLine.Run
import SqlTidy.Json.Writer
import SqlTidy.Options

namespace SqlTidy.CommandLine.Inspection

open Json (Value)

/-- The usage of the command. -/
def usage : String :=
  "usage: python dev/debug_normalize_tokens.py <query.sql> [upper|lower|keep]\n"

/-- Shows a space as a dot in the middle of the line, and a tab as an arrow. -/
def visibleChar (c : Char) : Char :=
  if c == ' ' then '·' else if c == '\t' then '⇥' else c

/-- A text with its blanks made visible. -/
def visible (text : List Char) : String :=
  String.ofList (text.map visibleChar)

/-- A token as one line of JSON. -/
def tokenLine (token : Token) : String :=
  (Value.record [("type", .ofString token.kind.name), ("value", .ofChars token.value)]).write

/-- A number of at least two digits. -/
def twoDigits (n : Nat) : String :=
  if n < 10 then "0" ++ toString n else toString n

/-- Numbered lines, counted from an index. -/
def numberedLines (index : Nat) : List (List Char) → List String
  | [] => []
  | line :: lines =>
      (twoDigits index ++ "  " ++ visible line ++ "\n") :: numberedLines (index + 1) lines

/-- The normalized text, its tokens and its layout. -/
def report (casing : Casing) (text : List Char) : String :=
  let normalized := KeywordSet.standard.normalize casing text
  let tokens := tokenize .standard normalized
  let lines := Text.splitLines (layout .standard [' ', ' '] normalized)
  "=== Normalized text (with visible spaces) ===\n" ++ visible normalized ++ "\n" ++
    "\n=== Tokens ===\n" ++ String.join (tokens.map fun token => tokenLine token ++ "\n") ++
    "\n=== Layout (with visible spaces) ===\n" ++ String.join (numberedLines 1 lines)

/-- Reports on a file. -/
def inspect (view : FileView) (file : List Char) (casing : Casing) : Run :=
  let path := Path.ofText file
  match view.readText path with
  | .error error => .ofFault (error.fault path) ""
  | .ok text => { ending := .exit 0, stdout := report casing text }

/-- Runs the command: a file, and perhaps the name of a policy. -/
def run (view : FileView) (arguments : List (List Char)) : Run :=
  match arguments with
  | [file] => inspect view file .upper
  | [file, name] => inspect view file (Options.casingOf (.ofChars name))
  | _ => { ending := .exit 2, stdout := usage }

end SqlTidy.CommandLine.Inspection
