/-
Module: SqlTidy.Text.Lines
Purpose: Line ends of all kinds.
Main exports: unifyLineEnds, splitLines
-/

namespace SqlTidy.Text

/-- Writes every carriage return, alone or before a line feed, as a line feed; `done` is what has
been written, last character first. -/
def unifyLineEndsFrom (done : List Char) : List Char → List Char
  | [] => done.reverse
  | '\r' :: '\n' :: rest => unifyLineEndsFrom ('\n' :: done) rest
  | '\r' :: rest => unifyLineEndsFrom ('\n' :: done) rest
  | c :: rest => unifyLineEndsFrom (c :: done) rest

/-- Writes every line end of a text file as a line feed. -/
def unifyLineEnds (text : List Char) : List Char :=
  unifyLineEndsFrom [] text

/-- A character that ends a line: line feed, carriage return, line and form tabulation, the
separator controls, the next-line control, and the line and paragraph separators. -/
def isLineEnd (c : Char) : Bool :=
  let n := c.toNat
  (0xA ≤ n && n ≤ 0xD) || (0x1C ≤ n && n ≤ 0x1E) || n == 0x85 || n == 0x2028 || n == 0x2029

/-- The lines of a text that starts with `line` (last character first), without their ends; `done`
are the lines before, last first.  A carriage return and a line feed after it are one end. -/
def splitLinesFrom (done : List (List Char)) (line : List Char) : List Char → List (List Char)
  | [] => (if line.isEmpty then done else line.reverse :: done).reverse
  | '\r' :: '\n' :: rest => splitLinesFrom (line.reverse :: done) [] rest
  | c :: rest =>
      if isLineEnd c then splitLinesFrom (line.reverse :: done) [] rest
      else splitLinesFrom done (c :: line) rest

/-- The lines of a text.  A line end closes a line, so the text after the last one counts only if
there is some. -/
def splitLines (text : List Char) : List (List Char) :=
  splitLinesFrom [] [] text

end SqlTidy.Text
