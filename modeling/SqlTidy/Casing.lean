/-
Module: SqlTidy.Casing
Purpose: The policy for the case of keywords, and its application to a query.
Main exports: Casing, KeywordSet.normalize
-/
import SqlTidy.Keyword.Occurrence

namespace SqlTidy

open Text

/-- How keywords are spelled in the output. -/
inductive Casing where
  | upper
  | lower
  | keep
deriving Repr, DecidableEq

namespace Casing

/-- The names of the policies. -/
def names : List String :=
  ["upper", "lower", "keep"]

/-- The spelling of an occurrence of a keyword under a policy. -/
def spell (casing : Casing) (keyword : Keyword) (found : List Char) : List Char :=
  match casing with
  | .upper => keyword.spelling
  | .lower => Text.lower keyword.spelling
  | .keep => found

end Casing

/-- Collapses the blanks of a query and spells its keywords by the policy.  The keywords are
applied in order, each to the text that the one before has left. -/
def KeywordSet.normalize (set : KeywordSet) (casing : Casing) (query : List Char) : List Char :=
  set.keywords.foldl (fun text keyword => keyword.respell (casing.spell keyword) text)
    (collapse query)

end SqlTidy
