/-
Module: SqlTidy.Layout
Purpose: Line breaks and indentation for a sequence of tokens.
Main exports: Layout, Layout.step, layoutTokens, layout
-/
import SqlTidy.Layout.Buffer
import SqlTidy.Token

namespace SqlTidy

open Text

/-!
The layout is one pass over the tokens with a single depth counter:

* an opening parenthesis ends its line and deepens the indentation,
* a closing one stands on a line of its own, one level less deep; the depth never falls below
  zero,
* a comma ends its line, and the next line keeps the indentation,
* a semicolon ends its line, and the next line starts without indentation,
* a keyword starts a line, at the indentation of its depth,
* any other word is followed by a space.
-/

/-- What has been written, and how many parentheses are open. -/
structure Layout where
  buffer : Buffer
  depth : Nat
deriving Repr, DecidableEq

namespace Layout

/-- The state before the first token. -/
def start : Layout :=
  ⟨.empty, 0⟩

/-- The indentation of a depth. -/
def indentation (unit : List Char) (depth : Nat) : List Char :=
  (List.replicate depth unit).flatten

/-- Writes one token. -/
def step (unit : List Char) (state : Layout) (token : Token) : Layout :=
  let buffer := state.buffer
  let depth := state.depth
  match token with
  | .openParen =>
      ⟨buffer.trimEnd.append ([' ', '(', '\n'] ++ indentation unit (depth + 1)), depth + 1⟩
  | .closeParen =>
      ⟨buffer.append (['\n'] ++ indentation unit (depth - 1) ++ [')']), depth - 1⟩
  | .comma => ⟨buffer.trimEnd.append ([',', '\n'] ++ indentation unit depth), depth⟩
  | .semicolon => ⟨buffer.trimEnd.append [';', '\n'], depth⟩
  | .keyword word =>
      let lineBreak := if buffer.atLineStart then [] else ['\n']
      ⟨buffer.append (lineBreak ++ indentation unit depth ++ word ++ [' ']), depth⟩
  | .text word => ⟨buffer.append (word ++ [' ']), depth⟩

end Layout

/-- The text of a sequence of tokens, each level indented by one more unit. -/
def layoutTokens (unit : List Char) (tokens : List Token) : List Char :=
  trim (tokens.foldl (Layout.step unit) Layout.start).buffer.value

/-- Divides a text into tokens and lays them out. -/
def layout (set : KeywordSet) (unit : List Char) (text : List Char) : List Char :=
  layoutTokens unit (tokenize set text)

end SqlTidy
