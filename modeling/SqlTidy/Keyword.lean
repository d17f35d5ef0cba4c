/-
Module: SqlTidy.Keyword
Purpose: SQL keywords and the ordered sets of them that a formatter works with.
Main exports: Keyword, KeywordSet, KeywordSet.ofTexts, KeywordSet.contains, KeywordSet.standard
-/
import SqlTidy.Text.Blank
import SqlTidy.Text.Case

namespace SqlTidy

open Text

/-- A keyword in its canonical form: its words in capital spelling.  The keyword of no words is
what a blank text gives. -/
structure Keyword where
  words : List (List Char)
deriving Repr, DecidableEq

namespace Keyword

/-- Reads a keyword, in any case and with any blanks between its words. -/
def ofText (text : List Char) : Keyword :=
  ⟨(Text.words text).map upper⟩

/-- The canonical spelling: the words with one space between neighbours. -/
def spelling (keyword : Keyword) : List Char :=
  joinWords keyword.words

/-- A character that a whole keyword may not touch: an ASCII letter or digit, or the
underscore. -/
def isWordChar (c : Char) : Bool :=
  c.isAlphanum || c == '_'

/-- A capital letter, digit or underscore of ASCII. -/
def isCapitalWordChar (c : Char) : Bool :=
  c.isUpper || c.isDigit || c == '_'

/-- Word-shaped keywords have at least one word, and every word is a non-empty run of capital
letters, digits and underscores. -/
def isWordShaped (keyword : Keyword) : Bool :=
  !keyword.words.isEmpty &&
    keyword.words.all fun word => !word.isEmpty && word.all isCapitalWordChar

end Keyword

/-- Keywords in the order in which they are applied. -/
structure KeywordSet where
  keywords : List Keyword
deriving Repr, DecidableEq

namespace KeywordSet

/-- The set given by a list of texts. -/
def ofTexts (texts : List (List Char)) : KeywordSet :=
  ⟨texts.map Keyword.ofText⟩

/-- The canonical spellings, in order. -/
def spellings (set : KeywordSet) : List (List Char) :=
  set.keywords.map Keyword.spelling

/-- A text is in the set if it is ASCII and its capital spelling is one of the canonical
spellings.  Letters of other scripts never count, even if their capital form is an ASCII
letter. -/
def contains (set : KeywordSet) (text : List Char) : Bool :=
  isAscii text && set.spellings.contains (upper text)

/-- Every keyword is word-shaped. -/
def isWordShaped (set : KeywordSet) : Bool :=
  set.keywords.all Keyword.isWordShaped

/-- The keywords of the standard set, in order. -/
def standardTexts : List String :=
  ["SELECT", "FROM", "WHERE", "GROUP BY", "ORDER BY", "HAVING", "LIMIT", "JOIN", "INNER JOIN",
    "LEFT JOIN", "RIGHT JOIN", "FULL JOIN", "ON", "AS", "AND", "OR", "UNION", "INSERT", "INTO",
    "VALUES", "UPDATE", "SET", "DELETE"]

/-- The keyword set that is used unless another one is given. -/
def standard : KeywordSet :=
  ofTexts (standardTexts.map String.toList)

end KeywordSet

end SqlTidy
