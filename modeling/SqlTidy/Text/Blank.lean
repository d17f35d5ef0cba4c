/-
Module: SqlTidy.Text.Blank
Purpose: White space, and the operations on text that only look at it.
Main exports: isBlank, trimEnd, trim, squeeze, collapse, words
-/
import SqlTidy.Text.Division

namespace SqlTidy.Text

/-!
Text is a list of characters throughout the library, so it holds no surrogates: a string with an
unpaired one is no text, and nothing that is said about texts covers it.  Only the strings of a JSON
document may have some, and they are lists of code points.  White space means the full Unicode
property together with the four separator controls, so that a no-break space divides words exactly
as a space does.

`collapse` is the first step of formatting.  It is written as two passes, `squeeze` and `trim`;
`words` is the other reading of the same idea, as the maximal runs of the other characters.
-/

/-- White space: the ASCII blanks, the separator controls, and the Unicode spaces and line
separators. -/
def isBlank (c : Char) : Bool :=
  let n := c.toNat
  (0x9 ≤ n && n ≤ 0xD) || (0x1C ≤ n && n ≤ 0x20) || n == 0x85 || n == 0xA0 || n == 0x1680 ||
    (0x2000 ≤ n && n ≤ 0x200A) || n == 0x2028 || n == 0x2029 || n == 0x202F || n == 0x205F ||
    n == 0x3000

/-- Drops the blanks at the end. -/
def trimEnd (text : List Char) : List Char :=
  (text.reverse.dropWhile isBlank).reverse

/-- Drops the blanks at both ends. -/
def trim (text : List Char) : List Char :=
  trimEnd (text.dropWhile isBlank)

/-- Writes every maximal run of blanks as one space. -/
def squeeze (text : List Char) : List Char :=
  text.foldr
    (fun c rest =>
      if isBlank c then
        match rest with
        | ' ' :: _ => rest
        | _ => ' ' :: rest
      else c :: rest)
    []

/-- Writes every maximal run of blanks as one space and drops the blanks at both ends. -/
def collapse (text : List Char) : List Char :=
  trim (squeeze text)

/-- The maximal runs of characters that are not blank, in order. -/
def words (text : List Char) : List (List Char) :=
  divide isBlank (fun _ => false) text

/-- The texts with one space between neighbours. -/
def joinWords (texts : List (List Char)) : List Char :=
  [' '].intercalate texts

end SqlTidy.Text
