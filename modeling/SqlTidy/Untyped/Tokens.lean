/-
Module: SqlTidy.Untyped.Tokens
Purpose: Laying out tokens that are given as values.
Main exports: Untyped.layoutTokens
-/
import SqlTidy.Untyped.Argument

namespace SqlTidy.Untyped

open Json (Value)

/-- The kind of token that a value names; any other value stands for text. -/
def tokenKind (value : Value) : TokenKind :=
  let kinds : List TokenKind := [.openParen, .closeParen, .comma, .semicolon, .keyword]
  (kinds.find? fun kind => value.isString kind.name).getD .text

/-- The two parts of a token. -/
def tokenParts : Value → Except Fault (Value × Value)
  | .object fields =>
      match Value.lookup fields "type", Value.lookup fields "value" with
      | some kind, some value => .ok (kind, value)
      | none, _ => .error (.tokenLacks "type")
      | some _, none => .error (.tokenLacks "value")
  | .string _ => .error .tokenIsText
  | .array _ => .error .tokenIsList
  | value => .error (.tokenWithoutParts value.kind)

/-- The word of a keyword token. -/
def keywordWord : Value → Except Fault (List Char)
  | .string text => .ok text.toChars
  | value => .error (.notAppendable value.kind)

/-- The word of a text token. -/
def textWord : Value → Except Fault (List Char)
  | .string text => .ok text.toChars
  | value => .error (.notExtensible value.kind)

/-- The token that a value is.  The unit of indentation is asked for before the word, and a mark
asks for no word at all. -/
def tokenOf (indent : Value) (value : Value) : Except Fault Token := do
  let (kind, word) ← tokenParts value
  let kind := tokenKind kind
  if needsUnit kind then
    discard (unit indent)
  match kind with
  | .openParen => .ok .openParen
  | .closeParen => .ok .closeParen
  | .comma => .ok .comma
  | .semicolon => .ok .semicolon
  | .keyword => (keywordWord word).map .keyword
  | .text => (textWord word).map .text

/-- The values in a list, or what else can be gone through in order. -/
def members : Value → Except Fault (List Value)
  | .array items => .ok items
  | .string text => .ok (text.map fun n => .string [n])
  | .object fields => .ok (fields.map fun (name, _) => .string name)
  | value => .error (.notIterable value.kind)

/-- Lays out a list of tokens. -/
def layoutTokens (indent : Value) (tokens : Value) : Except Fault (List Char) := do
  let tokens ← (← members tokens).mapM (tokenOf indent)
  .ok (layoutWith indent tokens)

end SqlTidy.Untyped
