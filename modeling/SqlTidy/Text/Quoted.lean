/-
Module: SqlTidy.Text.Quoted
Purpose: Text in quotes, with everything that cannot be seen escaped.
Main exports: quoted, quotedText
-/
import SqlTidy.Text.Printable

namespace SqlTidy.Text

/-- The hexadecimal digits of a number, padded with zeros to a width. -/
def hexDigits (width n : Nat) : String :=
  let digits := Nat.toDigits 16 n
  String.ofList (List.replicate (width - digits.length) '0' ++ digits)

/-- One code point of a quoted text.  The quote and the backslash are escaped, line breaks and tabs
have short names, and what cannot be seen is written by its number. -/
def quotedPoint (quote : Char) (n : Nat) : String :=
  if n == quote.toNat || n == 0x5C then "\\" ++ String.singleton (Char.ofNat n)
  else if n == 0xA then "\\n"
  else if n == 0xD then "\\r"
  else if n == 0x9 then "\\t"
  else if isPrintable n then String.singleton (Char.ofNat n)
  else if n < 0x100 then "\\x" ++ hexDigits 2 n
  else if n < 0x10000 then "\\u" ++ hexDigits 4 n
  else "\\U" ++ hexDigits 8 n

/-- A text, given by its code points, in single quotes; in double quotes if it has a single quote
and no double one. -/
def quoted (codePoints : List Nat) : String :=
  let quote := if codePoints.contains 0x27 && !codePoints.contains 0x22 then '\x22' else '\x27'
  String.singleton quote ++ String.join (codePoints.map (quotedPoint quote)) ++
    String.singleton quote

/-- A text of characters in quotes. -/
def quotedText (text : List Char) : String :=
  quoted (text.map Char.toNat)

end SqlTidy.Text
