/-
Module: SqlTidy.Text.Case
Purpose: Capital and small spellings of text, for the whole of Unicode.
Main exports: upper, lower, isAscii
-/
import SqlTidy.Text.CaseContext
import SqlTidy.Text.CaseMap

namespace SqlTidy.Text

/-!
Capital spelling looks at one character at a time; a letter such as the sharp s becomes two.
Small spelling does too, with one exception: a capital sigma that ends a word becomes the final
form of the letter.  `endsWord` states what ending a word means.
-/

/-- The text has ASCII characters only. -/
def isAscii (text : List Char) : Bool :=
  text.all (·.toNat < 0x80)

/-- The capital spelling of one character. -/
def upperChar (c : Char) : List Char :=
  if c.toNat < 0x80 then [c.toUpper]
  else
    match capitalSpellings.lookup c.toNat with
    | some codePoints => codePoints.map Char.ofNat
    | none => [Char.ofNat (CaseRun.apply capitalRuns c.toNat)]

/-- The capital spelling of a text. -/
def upper (text : List Char) : List Char :=
  text.flatMap upperChar

/-- The first character that the search for a cased letter does not pass over is one. -/
def meetsCased (text : List Char) : Bool :=
  match text.dropWhile isCaseIgnorable with
  | c :: _ => isCased c
  | [] => false

/-- A letter between `before` (nearest first) and `after` ends a word: a cased letter comes
before it and none comes after it. -/
def endsWord (before after : List Char) : Bool :=
  meetsCased before && !meetsCased after

/-- The small spelling of a character between `before` (nearest first) and `after`. -/
def lowerChar (before : List Char) (c : Char) (after : List Char) : List Char :=
  if c.toNat < 0x80 then [c.toLower]
  else if c.toNat == 0x3A3 then [if endsWord before after then 'ς' else 'σ']
  else if c.toNat == 0x130 then ['i', Char.ofNat 0x307]
  else [Char.ofNat (CaseRun.apply smallRuns c.toNat)]

/-- The small spelling of the characters that follow `before` (nearest first). -/
def lowerAfter (before : List Char) : List Char → List Char
  | [] => []
  | c :: after => lowerChar before c after ++ lowerAfter (c :: before) after

/-- The small spelling of a text. -/
def lower (text : List Char) : List Char :=
  lowerAfter [] text

end SqlTidy.Text
