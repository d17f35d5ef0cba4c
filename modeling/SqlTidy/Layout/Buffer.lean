/-
Module: SqlTidy.Layout.Buffer
Purpose: The text under construction, as a list of parts that can be trimmed at the end.
Main exports: Buffer, Buffer.append, Buffer.trimEnd, Buffer.atLineStart, Buffer.value
-/
import SqlTidy.Text.Blank

namespace SqlTidy

/-- Text under construction.  The parts are kept last first, since all work happens at the
end. -/
structure Buffer where
  lastFirst : List (List Char)
deriving Repr, DecidableEq

namespace Buffer

/-- The buffer without text. -/
def empty : Buffer :=
  ⟨[]⟩

/-- The parts in reading order. -/
def parts (buffer : Buffer) : List (List Char) :=
  buffer.lastFirst.reverse

/-- The text of the buffer. -/
def value (buffer : Buffer) : List Char :=
  buffer.parts.flatten

/-- Adds a part; an empty text adds none. -/
def append (buffer : Buffer) (text : List Char) : Buffer :=
  if text.isEmpty then buffer else ⟨text :: buffer.lastFirst⟩

/-- Trims parts, last first, until one keeps a character; parts that keep none are dropped. -/
def trimParts : List (List Char) → List (List Char)
  | [] => []
  | part :: earlier =>
      match Text.trimEnd part with
      | [] => trimParts earlier
      | trimmed => trimmed :: earlier

/-- Drops the blanks at the end of the text. -/
def trimEnd (buffer : Buffer) : Buffer :=
  ⟨trimParts buffer.lastFirst⟩

/-- Nothing has been written, or the last part ends a line. -/
def atLineStart (buffer : Buffer) : Bool :=
  match buffer.lastFirst with
  | [] => true
  | part :: _ => part.getLast? == some '\n'

end Buffer

end SqlTidy
