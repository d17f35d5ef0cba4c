/-
Module: SqlTidy.CommandLine.Grammar
Purpose: How the words of a command line divide into options, values and inputs.
Main exports: OptionSpec, Stop, Word, Grammar, Grammar.parse
-/
import SqlTidy.Text.DecimalDigit
import SqlTidy.Text.Quoted

namespace SqlTidy.CommandLine

/-!
A command line is read in two steps.  First every word is told apart by its spelling alone: an
option, an input, or the divider after which everything is an input.  Then the words are gone
through from left to right.  An option acts at once, so that the first fault or request to stop
wins; words that nothing takes are collected and reported at the end.

Three corners of the grammar were settled otherwise in later releases of the parser that the
commands are built on, and stand here as they were before its release 3.11.9.  In a group of
letters, everything from the first letter that is no option on is a refused value.  An equals sign
after an option of one dash starts a group.  And an option that is assigned the divider is given no
value.
-/

/-- An option: its spellings, and whether a value follows it.  Only options without a value have a
spelling of one dash. -/
structure OptionSpec where
  names : List String
  takesValue : Bool
deriving Repr, DecidableEq

/-- The name of an option in messages. -/
def OptionSpec.title (spec : OptionSpec) : String :=
  "/".intercalate spec.names

/-- The option that shows the help, which every command has. -/
def helpOption : OptionSpec := ⟨["-h", "--help"], false⟩

/-- Why a command line is not gone through to its end. -/
inductive Stop where
  | help
  | version
  | misuse (message : String)
deriving Repr, DecidableEq

/-- A complaint about an option. -/
def OptionSpec.complain (spec : OptionSpec) (problem : String) : Stop :=
  .misuse ("argument " ++ spec.title ++ ": " ++ problem)

/-- The complaint about a value for an option that takes none. -/
def OptionSpec.refuse (spec : OptionSpec) (value : List Char) : Stop :=
  spec.complain ("ignored explicit argument " ++ Text.quotedText value)

/-- What a word is by its spelling. -/
inductive Word where
  /-- The word after which all words are inputs. -/
  | divider
  /-- An input, or the value of an option before it. -/
  | plain (text : List Char)
  /-- An option that does not exist. -/
  | unknown (text : List Char)
  /-- An option by itself. -/
  | option (spec : OptionSpec)
  /-- An option and, after an equals sign, its value. -/
  | assigned (spec : OptionSpec) (value : List Char)
  /-- An option of one dash and a letter, with the letters of further options after it. -/
  | grouped (spec : OptionSpec) (letters : List Char)
deriving Repr, DecidableEq

/-- The option with a spelling. -/
def findOption? (specs : List OptionSpec) (name : List Char) : Option OptionSpec :=
  specs.find? fun spec => spec.names.any (·.toList == name)

/-- The parts of a text before and after the first equals sign, if there is one. -/
def splitAssignment (text : List Char) : List Char × Option (List Char) :=
  match text.dropWhile (· != '=') with
  | [] => (text, none)
  | _ :: value => (text.takeWhile (· != '='), some value)

/-- The spellings that start with a text, with their options. -/
def completions (specs : List OptionSpec) (start : List Char) : List (String × OptionSpec) :=
  specs.flatMap fun spec =>
    (spec.names.filter fun name => start.isPrefixOf name.toList).map fun name => (name, spec)

/-- Digits of any script, at least one. -/
def isDigits (text : List Char) : Bool :=
  !text.isEmpty && text.all fun c => (Text.decimalDigit? c).isSome

/-- A negative number: a dash and digits, with at most one point that digits follow; a line feed at
the end does not count. -/
def isNegativeNumber (text : List Char) : Bool :=
  let text := if text.getLast? == some '\n' then text.dropLast else text
  match text with
  | '-' :: number =>
      isDigits number ||
        (match number.dropWhile (· != '.') with
          | '.' :: fraction =>
              (number.takeWhile (· != '.')).all (fun c => (Text.decimalDigit? c).isSome) &&
                isDigits fraction
          | _ => false)
  | _ => false

/-- An option with the value that was assigned to it, if any. -/
def Word.ofOption (spec : OptionSpec) (value : Option (List Char)) : Word :=
  match value with
  | some value => .assigned spec value
  | none => .option spec

/-- An option whose full spelling stands before an equals sign.  After a spelling of one dash, what
is assigned counts as letters of further options. -/
def Word.ofAssignment (spec : OptionSpec) (name value : List Char) : Word :=
  match name, value with
  | '-' :: '-' :: _, _ => .assigned spec value
  | _, [] => .assigned spec []
  | _, letters => .grouped spec letters

/-- What a word is that starts with a dash, is longer than that, and is no spelling of an option:
an option with its value, the start of a long option, or letters after a short one.  Otherwise a
negative number or a text with a space is an input, and all else is an option that does not
exist. -/
def dashedWord (specs : List OptionSpec) (text : List Char) : Except Stop Word :=
  let (name, value) := splitAssignment text
  let rest : Word :=
    if isNegativeNumber text || text.contains ' ' then .plain text else .unknown text
  match value, findOption? specs name with
  | some value, some spec => .ok (.ofAssignment spec name value)
  | _, _ =>
      match text with
      | '-' :: '-' :: _ =>
          match completions specs name with
          | [] => .ok rest
          | [(_, spec)] => .ok (.ofOption spec value)
          | found =>
              .error (.misuse ("ambiguous option: " ++ String.ofList text ++ " could match " ++
                ", ".intercalate (found.map (·.1))))
      | '-' :: letter :: more =>
          match findOption? specs ['-', letter] with
          | some spec => .ok (.grouped spec more)
          | none => .ok rest
      | _ => .ok rest

/-- What a word is. -/
def wordOf (specs : List OptionSpec) (text : List Char) : Except Stop Word :=
  match text with
  | '-' :: _ :: _ =>
      match findOption? specs text with
      | some spec => .ok (.option spec)
      | none => dashedWord specs text
  | _ => .ok (.plain text)

/-- What the words of a command line are. -/
def wordsOf (specs : List OptionSpec) : List (List Char) → Except Stop (List Word)
  | [] => .ok []
  | text :: rest =>
      if text == ['-', '-'] then .ok (.divider :: rest.map .plain)
      else do
        let word ← wordOf specs text
        return word :: (← wordsOf specs rest)

/-- The options that an option of one dash and the letters after it stand for.  From the first
letter that is no option on, the letters count as a value, which none of these options takes. -/
def groupOptions (specs : List OptionSpec) (spec : OptionSpec) :
    List Char → Except Stop (List OptionSpec)
  | [] => .ok [spec]
  | letter :: rest =>
      match findOption? specs ['-', letter] with
      | none => .error (spec.refuse (letter :: rest))
      | some next => (groupOptions specs next rest).map (spec :: ·)

/-- Whether inputs are still taken: they have not begun, they are being taken, or they are over,
since all inputs stand in one run of words. -/
inductive InputPhase where
  | before
  | within
  | after
deriving Repr, DecidableEq

/-- What has been read of a command line. -/
structure Progress (σ : Type) where
  settings : σ
  phase : InputPhase
  inputs : List (List Char) := []
  unrecognized : List (List Char) := []

/-- A command line's grammar: its options, what each of them does, and whether it has inputs.  An
option acts on the value that it is given, and without one if it takes none or if the value is the
divider. -/
structure Grammar (σ : Type) where
  options : List OptionSpec
  act : σ → OptionSpec → Option (List Char) → Except Stop σ
  hasInputs : Bool

namespace Progress

variable {σ : Type}

/-- Takes an input; the inputs are one run of words, and any later ones are not recognized. -/
def takeInput (progress : Progress σ) (text : List Char) : Progress σ :=
  match progress.phase with
  | .after => { progress with unrecognized := progress.unrecognized ++ [text] }
  | _ => { progress with phase := .within, inputs := progress.inputs ++ [text] }

/-- Takes the divider, which is no input itself. -/
def takeDivider (progress : Progress σ) : Progress σ :=
  match progress.phase with
  | .after => { progress with unrecognized := progress.unrecognized ++ [['-', '-']] }
  | _ => { progress with phase := .within }

/-- Ends the run of inputs. -/
def endRun (progress : Progress σ) : Progress σ :=
  match progress.phase with
  | .within => { progress with phase := .after }
  | _ => progress

/-- Takes a word that nothing recognizes. -/
def reject (progress : Progress σ) (text : List Char) : Progress σ :=
  { progress with unrecognized := progress.unrecognized ++ [text] }

end Progress

namespace Grammar

variable {σ : Type}

/-- Lets an option act. -/
def perform (grammar : Grammar σ) (progress : Progress σ) (spec : OptionSpec)
    (value : Option (List Char)) : Except Stop (Progress σ) :=
  (grammar.act progress.settings spec value).map fun settings => { progress with settings }

/-- Goes through the words. -/
def walk (grammar : Grammar σ) : Progress σ → List Word → Except Stop (Progress σ)
  | progress, [] => .ok progress
  | progress, .divider :: rest => walk grammar progress.takeDivider rest
  | progress, .plain text :: rest => walk grammar (progress.takeInput text) rest
  | progress, .unknown text :: rest => walk grammar (progress.endRun.reject text) rest
  | progress, .assigned spec value :: rest =>
      if spec.takesValue then do
        let value := if value == ['-', '-'] then none else some value
        let progress ← grammar.perform progress.endRun spec value
        walk grammar progress rest
      else .error (spec.refuse value)
  | progress, .grouped spec letters :: rest => do
      let specs ← groupOptions grammar.options spec letters
      let progress ← specs.foldlM (fun progress spec => grammar.perform progress spec none)
        progress.endRun
      walk grammar progress rest
  | progress, .option spec :: .plain value :: rest =>
      if spec.takesValue then do
        let progress ← grammar.perform progress.endRun spec (some value)
        walk grammar progress rest
      else do
        let progress ← grammar.perform progress.endRun spec none
        walk grammar (progress.takeInput value) rest
  | progress, .option spec :: rest =>
      if spec.takesValue then .error (spec.complain "expected one argument")
      else do
        let progress ← grammar.perform progress.endRun spec none
        walk grammar progress rest

/-- Reads a command line: the settings that its options make, and its inputs. -/
def parse (grammar : Grammar σ) (initial : σ) (arguments : List (List Char)) :
    Except Stop (σ × List (List Char)) := do
  let words ← wordsOf grammar.options arguments
  let phase := if grammar.hasInputs then InputPhase.before else InputPhase.after
  let progress ← grammar.walk { settings := initial, phase } words
  if progress.unrecognized.isEmpty then return (progress.settings, progress.inputs)
  else
    throw (.misuse ("unrecognized arguments: " ++
      " ".intercalate (progress.unrecognized.map String.ofList)))

end Grammar

end SqlTidy.CommandLine
