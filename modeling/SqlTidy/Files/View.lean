/-
Module: SqlTidy.Files.View
Purpose: Files as a program sees them that only reads, with the faults of using a path.
Main exports: FileError, Entry, FileView, FileView.probe, FileView.read
-/
import SqlTidy.Files.Path
import SqlTidy.Text.Quoted

namespace SqlTidy

/-- Why a path could not be used. -/
inductive FileError where
  | missing
  | notDirectory
  | isDirectory
  | nameTooLong
  | nulInName
deriving Repr, DecidableEq

namespace FileError

/-- The number of an error, for the errors that the file system itself reports. -/
def number? : FileError → Option Nat
  | .missing => some 2
  | .notDirectory => some 20
  | .isDirectory => some 21
  | .nameTooLong => some 36
  | .nulInName => none

/-- The reason alone. -/
def reason : FileError → String
  | .missing => "No such file or directory"
  | .notDirectory => "Not a directory"
  | .isDirectory => "Is a directory"
  | .nameTooLong => "File name too long"
  | .nulInName => "embedded null byte"

/-- The full wording, with the number and the path where the file system reports the error. -/
def message (error : FileError) (path : Path) : String :=
  match error.number? with
  | some n =>
      "[Errno " ++ toString n ++ "] " ++ error.reason ++ ": " ++ Text.quotedText path.text
  | none => error.reason

end FileError

/-- What a path leads to. -/
inductive Entry where
  | file (bytes : List UInt8)
  | directory
deriving Repr, DecidableEq

/-- What can be seen of the files: what each path leads to. -/
structure FileView where
  find : Path → Except FileError Entry

namespace FileView

/-- What a path leads to, if anything.  A path that leads nowhere is no error, and neither is a name
that no file can have; a name that is too long is one. -/
def probe (view : FileView) (path : Path) : Except FileError (Option Entry) :=
  match view.find path with
  | .ok entry => .ok (some entry)
  | .error .nameTooLong => .error .nameTooLong
  | .error _ => .ok none

/-- The bytes of a file. -/
def read (view : FileView) (path : Path) : Except FileError (List UInt8) :=
  match view.find path with
  | .ok (.file bytes) => .ok bytes
  | .ok .directory => .error .isDirectory
  | .error error => .error error

end FileView

end SqlTidy
