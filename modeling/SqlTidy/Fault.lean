/-
Module: SqlTidy.Fault
Purpose: Every way in which an operation of the library can fail, and its wording.
Main exports: KeywordUse, Callee, Fault, Fault.message
-/
import SqlTidy.Error
import SqlTidy.Files.Text
import SqlTidy.Json.Reader

namespace SqlTidy

open Json (Kind)

/-- What a keyword set was needed for when there was none. -/
inductive KeywordUse where
  | respelling
  | lookup
  | listing
deriving Repr, DecidableEq

/-- Something that takes arguments by position: its name in messages, the names of those that it
needs, and how many more it takes. -/
structure Callee where
  name : String
  needed : List String
  further : Nat := 0
deriving Repr, DecidableEq

/-- The causes of failure. -/
inductive Fault where
  /-- A text was needed. -/
  | notText (kind : Kind)
  /-- A list of keywords or tokens was needed. -/
  | notIterable (kind : Kind)
  /-- A keyword was needed as text. -/
  | keywordNotText (kind : Kind)
  /-- A keyword set was needed. -/
  | noKeywords (use : KeywordUse)
  /-- The indent size cannot be compared with zero. -/
  | indentNotNumber (kind : Kind)
  /-- The indent size is positive, and it is no integer. -/
  | indentNotInteger
  /-- The indent size is beyond the range of sizes. -/
  | indentBeyondRange
  /-- The indentation is too long to be held. -/
  | indentBeyondMemory
  /-- No option has this name. -/
  | unknownOption (name : String)
  /-- An argument that was already given by position was given again by name. -/
  | givenTwice (function argument : String)
  /-- A value that cannot be looked up was to be classified. -/
  | notClassifiable (kind : Kind)
  /-- A token was needed, and this has no parts. -/
  | tokenWithoutParts (kind : Kind)
  /-- A token was needed, and this is a text. -/
  | tokenIsText
  /-- A token was needed, and this is a list. -/
  | tokenIsList
  /-- A token lacks this part. -/
  | tokenLacks (part : String)
  /-- The unit of indentation cannot be repeated. -/
  | unitNotRepeatable (kind : Kind)
  /-- This cannot be added to a text. -/
  | notAppendable (kind : Kind)
  /-- A text cannot be added to this. -/
  | notExtensible (kind : Kind)
  /-- A part of a buffer was needed as text. -/
  | partNotText (index : Nat) (kind : Kind)
  /-- A buffer has no operation of this name. -/
  | unknownBufferOperation (name : String)
  /-- Arguments are missing. -/
  | tooFewArguments (callee : Callee) (given : Nat)
  /-- There are more arguments than are taken. -/
  | tooManyArguments (callee : Callee) (given : Nat)
  /-- A numeral was needed as text. -/
  | numeralNotText
  /-- A text is no indent size. -/
  | badIndent (text : List Char)
  /-- A text is not JSON, or has a number that is too long. -/
  | json (error : Json.ReadError)
  /-- A value cannot be shown in a message. -/
  | display (error : Json.DisplayError)
  /-- A configuration cannot be used. -/
  | config (error : ConfigError)
  /-- A path was needed, and an empty list was given. -/
  | noPath
  /-- A path cannot be used. -/
  | file (error : FileError) (path : Path)
  /-- Bytes are no text. -/
  | bytes (fault : Utf8.Fault)
deriving Repr, DecidableEq

/-- Names in quotes, divided by commas and a final conjunction. -/
def enumerateNames : List String → String
  | [] => ""
  | [a] => "'" ++ a ++ "'"
  | [a, b] => "'" ++ a ++ "' and '" ++ b ++ "'"
  | names =>
      ", ".intercalate (names.dropLast.map fun name => "'" ++ name ++ "'") ++ ", and '" ++
        names.getLast?.getD "" ++ "'"

/-- The plural ending of a counted noun. -/
def pluralEnding (count : Nat) : String :=
  if count == 1 then "" else "s"

namespace Callee

/-- The wording for missing arguments. -/
def missingMessage (callee : Callee) (given : Nat) : String :=
  let missing := callee.needed.drop given
  callee.name ++ "() missing " ++ toString missing.length ++ " required positional argument" ++
    pluralEnding missing.length ++ ": " ++ enumerateNames missing

/-- The wording for arguments beyond those that are taken.  The receiver of the call counts as an
argument. -/
def surplusMessage (callee : Callee) (given : Nat) : String :=
  let least := callee.needed.length + 1
  let range :=
    if callee.further == 0 then toString least ++ " positional argument" ++ pluralEnding least
    else
      "from " ++ toString least ++ " to " ++ toString (least + callee.further) ++
        " positional arguments"
  callee.name ++ "() takes " ++ range ++ " but " ++ toString (given + 1) ++ " were given"

end Callee

/-- The wording of a fault. -/
def Fault.message : Fault → String
  | .notText kind => "expected string or bytes-like object, got '" ++ kind.name ++ "'"
  | .notIterable kind => "'" ++ kind.name ++ "' object is not iterable"
  | .keywordNotText kind => "'" ++ kind.name ++ "' object has no attribute 'split'"
  | .noKeywords .respelling => "'NoneType' object has no attribute 'patterns'"
  | .noKeywords .lookup => "argument of type 'NoneType' is not iterable"
  | .noKeywords .listing => "'NoneType' object has no attribute 'as_list'"
  | .indentNotNumber kind =>
      "'>' not supported between instances of '" ++ kind.name ++ "' and 'int'"
  | .indentNotInteger => "can't multiply sequence by non-int of type 'float'"
  | .indentBeyondRange => "cannot fit 'int' into an index-sized integer"
  | .indentBeyondMemory => ""
  | .unknownOption name =>
      "FormatOptions.__init__() got an unexpected keyword argument '" ++ name ++ "'"
  | .givenTwice function argument =>
      function ++ "() got multiple values for argument '" ++ argument ++ "'"
  | .notClassifiable kind => "unhashable type: '" ++ kind.name ++ "'"
  | .tokenWithoutParts kind => "'" ++ kind.name ++ "' object is not subscriptable"
  | .tokenIsText => "string indices must be integers, not 'str'"
  | .tokenIsList => "list indices must be integers or slices, not str"
  | .tokenLacks part => "'" ++ part ++ "'"
  | .unitNotRepeatable kind =>
      "unsupported operand type(s) for *: '" ++ kind.name ++ "' and 'int'"
  | .notAppendable kind => "can only concatenate str (not \x22" ++ kind.name ++ "\x22) to str"
  | .notExtensible .array => "can only concatenate list (not \x22str\x22) to list"
  | .notExtensible kind => "unsupported operand type(s) for +: '" ++ kind.name ++ "' and 'str'"
  | .partNotText index kind =>
      "sequence item " ++ toString index ++ ": expected str instance, " ++ kind.name ++ " found"
  | .unknownBufferOperation name => "'_Buffer' object has no attribute '" ++ name ++ "'"
  | .tooFewArguments callee given => callee.missingMessage given
  | .tooManyArguments callee given => callee.surplusMessage given
  | .numeralNotText => "int() can't convert non-string with explicit base"
  | .badIndent text =>
      "invalid indent: " ++ Text.quotedText text ++ " (expected a non-negative integer)"
  | .json error => error.message
  | .display error => error.message
  | .config error => error.text
  | .noPath => "expected str, bytes or os.PathLike object, not list"
  | .file error path => error.message path
  | .bytes fault => fault.message

/-- The fault of a file that could not be read as text. -/
def TextError.fault (error : TextError) (path : Path) : Fault :=
  match error with
  | .file error => .file error path
  | .bytes fault => .bytes fault

end SqlTidy
