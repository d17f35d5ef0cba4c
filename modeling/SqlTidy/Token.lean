/-
Module: SqlTidy.Token
Purpose: The tokens of a query and how a text divides into them.
Main exports: Token, TokenKind, classify, tokenize
-/
import SqlTidy.Keyword

namespace SqlTidy

open Text

/-- What a token is to the layout. -/
inductive TokenKind where
  | openParen
  | closeParen
  | comma
  | semicolon
  | keyword
  | text
deriving Repr, DecidableEq

/-- The name of a kind in reports. -/
def TokenKind.name : TokenKind → String
  | .openParen => "OPEN_PAREN"
  | .closeParen => "CLOSE_PAREN"
  | .comma => "COMMA"
  | .semicolon => "SEMICOLON"
  | .keyword => "KEYWORD"
  | .text => "TEXT"

/-- A token: one of the four marks, or a word that is a keyword or other text. -/
inductive Token where
  | openParen
  | closeParen
  | comma
  | semicolon
  | keyword (word : List Char)
  | text (word : List Char)
deriving Repr, DecidableEq

namespace Token

/-- The kind of a token. -/
def kind : Token → TokenKind
  | openParen => .openParen
  | closeParen => .closeParen
  | comma => .comma
  | semicolon => .semicolon
  | keyword _ => .keyword
  | text _ => .text

/-- The characters of a token. -/
def value : Token → List Char
  | openParen => ['(']
  | closeParen => [')']
  | comma => [',']
  | semicolon => [';']
  | keyword word => word
  | text word => word

/-- The mark that a text of one character is. -/
def mark? : List Char → Option Token
  | ['('] => some openParen
  | [')'] => some closeParen
  | [','] => some comma
  | [';'] => some semicolon
  | _ => none

/-- The token that a piece of text is: a mark, else a keyword of the set, else text. -/
def ofPiece (set : KeywordSet) (piece : List Char) : Token :=
  match mark? piece with
  | some mark => mark
  | none => if set.contains piece then keyword piece else text piece

end Token

/-- One of the characters that are tokens by themselves. -/
def isMark (c : Char) : Bool :=
  c == '(' || c == ')' || c == ',' || c == ';'

/-- The pieces that a text divides into: a mark is a piece by itself, blanks divide pieces and
belong to none. -/
def pieces (text : List Char) : List (List Char) :=
  divide isBlank isMark text

/-- The tokens of a text. -/
def tokenize (set : KeywordSet) (text : List Char) : List Token :=
  (pieces text).map (Token.ofPiece set)

end SqlTidy
