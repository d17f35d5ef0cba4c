/-
Module: SqlTidy.Format
Purpose: Formatting a query: keywords first, then layout.
Main exports: Style, Style.format
-/
import SqlTidy.Casing
import SqlTidy.Layout

namespace SqlTidy

/-- Everything that formatting a query depends on besides the query. -/
structure Style where
  /-- The number of spaces per level. -/
  indent : Nat
  casing : Casing
  keywords : KeywordSet
deriving Repr, DecidableEq

namespace Style

/-- The indentation of one level. -/
def indentUnit (style : Style) : List Char :=
  List.replicate style.indent ' '

/-- The query with its blanks collapsed and its keywords spelled by the policy. -/
def normalize (style : Style) (query : List Char) : List Char :=
  style.keywords.normalize style.casing query

/-- The formatted query. -/
def format (style : Style) (query : List Char) : List Char :=
  layout style.keywords style.indentUnit (style.normalize query)

end Style

end SqlTidy
