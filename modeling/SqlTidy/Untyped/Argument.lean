/-
Module: SqlTidy.Untyped.Argument
Purpose: The formatting operations on arguments of any kind.
Main exports: Untyped.text, Untyped.keywordSet, Untyped.normalize, Untyped.classify,
  Untyped.tokenize, Untyped.layout, Untyped.format
-/
import SqlTidy.Number.Numeral
import SqlTidy.Options

namespace SqlTidy.Untyped

open Json (Value)

/-!
The typed operations take a text, a keyword set and a unit of indentation.  Here each argument may
be any value.  An operation checks its arguments in the order in which it comes to need them,
reports the first one that it cannot use, and otherwise runs the typed operation.
-/

/-- A text argument.  A value that stands for nothing is the empty text. -/
def text : Value → Except Fault (List Char)
  | .string text => .ok text.toChars
  | value => if value.isVoid then .ok [] else .error (.notText value.kind)

/-- A keyword as an argument. -/
def keyword : Value → Except Fault (List Char)
  | .string text => .ok text.toChars
  | value => .error (.keywordNotText value.kind)

/-- A keyword set as an argument: the items of a list, the characters of a text, or the names of
the fields of an object. -/
def keywordSet : Value → Except Fault KeywordSet
  | .array items => (items.mapM keyword).map KeywordSet.ofTexts
  | .string text => .ok (.ofTexts (text.toChars.map fun c => [c]))
  | .object fields => .ok (.ofTexts (fields.map fun (name, _) => name.toChars))
  | value => .error (.notIterable value.kind)

/-- Collapses the blanks of a text argument. -/
def collapse (value : Value) : Except Fault (List Char) :=
  (text value).map Text.collapse

/-- Normalizes a text argument. -/
def normalize (value keywordCase : Value) (keywords : Option KeywordSet) :
    Except Fault (List Char) := do
  let query ← text value
  match keywords with
  | none => .error (.noKeywords .respelling)
  | some set => .ok (set.normalize (Options.casingOf keywordCase) query)

/-- The token of a piece of text, where the keyword set is asked only about words. -/
def token (keywords : Option KeywordSet) (piece : List Char) : Except Fault Token :=
  match Token.mark? piece, keywords with
  | some mark, _ => .ok mark
  | none, some set => .ok (Token.ofPiece set piece)
  | none, none => .error (.noKeywords .lookup)

/-- The kind of token that a value is.  Only a text can be a mark or a keyword. -/
def classify (keywords : Option KeywordSet) (value : Value) : Except Fault TokenKind :=
  match value with
  | .string piece => (token keywords piece.toChars).map Token.kind
  | .array _ | .object _ => .error (.notClassifiable value.kind)
  | _ => if keywords.isNone then .error (.noKeywords .lookup) else .ok .text

/-- The tokens of a text argument. -/
def tokenize (keywords : Option KeywordSet) (value : Value) : Except Fault (List Token) := do
  let found ← text value
  (pieces found).mapM (token keywords)

/-- A unit of indentation where one is needed. -/
def unit : Value → Except Fault (List Char)
  | .string text => .ok text.toChars
  | .bool _ => .error (.notAppendable .int)
  | value =>
      match value.kind with
      | .null | .object => .error (.unitNotRepeatable value.kind)
      | kind => .error (.notAppendable kind)

/-- The layout of a token looks at the unit of indentation. -/
def needsUnit : TokenKind → Bool
  | .semicolon | .text => false
  | _ => true

/-- Lays out tokens with a unit that has been asked for wherever it was needed. -/
def layoutWith (indent : Value) (tokens : List Token) : List Char :=
  layoutTokens ((unit indent).toOption.getD []) tokens

/-- Lays out a text argument.  A token asks for the keyword set first and then for the unit. -/
def layout (keywords : Option KeywordSet) (indent value : Value) : Except Fault (List Char) := do
  let found ← text value
  let tokens ← (pieces found).mapM fun piece => do
    let token ← token keywords piece
    if needsUnit token.kind then
      discard (unit indent)
    pure token
  .ok (layoutWith indent tokens)

/-- Formats a text argument. -/
def format (options : Options) (value : Value) : Except Fault (List Char) := do
  let query ← text value
  options.format query

/-- Formats a text argument with some options overridden.  The text and the options themselves
cannot be given again by name. -/
def formatWith (options : Options) (overrides : List Setting) (value : Value) :
    Except Fault (List Char) :=
  if overrides.any (Setting.isNamed "sql") then .error (.givenTwice "format_sql" "sql")
  else if overrides.any (Setting.isNamed "options") then
    .error (.givenTwice "format_sql" "options")
  else do
    let options ← options.merge overrides
    format options value

/-- The indent size that a value spells. -/
def indentSize : Value → Except Fault Nat
  | .string text => indentSize? text.toChars
  | _ => .error .numeralNotText

end SqlTidy.Untyped
