/-
Module: SqlTidy.Files.Text
Purpose: Reading files as text.
Main exports: TextError, decodeText, FileView.readText
-/
import SqlTidy.Files.View
import SqlTidy.Text.Lines
import SqlTidy.Text.Utf8

namespace SqlTidy

/-- Why a file could not be read as text. -/
inductive TextError where
  | file (error : FileError)
  | bytes (fault : Utf8.Fault)
deriving Repr, DecidableEq

/-- The reason alone, without the path. -/
def TextError.reason : TextError → String
  | .file error => error.reason
  | .bytes fault => fault.message

/-- The text of bytes by a decoder, with its line ends unified. -/
def decodeText (decoder : List UInt8 → Except Utf8.Fault (List Char)) (bytes : List UInt8) :
    Except TextError (List Char) :=
  match decoder bytes with
  | .ok text => .ok (Text.unifyLineEnds text)
  | .error fault => .error (.bytes fault)

/-- The text of a file by a decoder, with its line ends unified. -/
def FileView.readTextBy (view : FileView) (decoder : List UInt8 → Except Utf8.Fault (List Char))
    (path : Path) : Except TextError (List Char) :=
  match view.read path with
  | .ok bytes => decodeText decoder bytes
  | .error error => .error (.file error)

/-- The text of a file; a byte-order mark belongs to it. -/
def FileView.readText (view : FileView) (path : Path) : Except TextError (List Char) :=
  view.readTextBy Utf8.decode path

end SqlTidy
