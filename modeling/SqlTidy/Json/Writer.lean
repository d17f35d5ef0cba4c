/-
Module: SqlTidy.Json.Writer
Purpose: Writing JSON values as text on one line.
Main exports: Value.write
-/
import SqlTidy.Json.Value

namespace SqlTidy.Json

/-- One character of a JSON string: quotes, backslashes and control characters are escaped, all
others stand as they are. -/
def writtenChar (c : Char) : String :=
  if c == '\x22' || c == '\\' then "\\" ++ String.singleton c
  else if c == '\n' then "\\n"
  else if c == '\r' then "\\r"
  else if c == '\t' then "\\t"
  else if c == '\x08' then "\\b"
  else if c == '\x0c' then "\\f"
  else if c.toNat < 0x20 then "\\u" ++ Text.hexDigits 4 c.toNat
  else String.singleton c

/-- A text as a JSON string. -/
def writtenText (text : List Char) : String :=
  "\x22" ++ String.join (text.map writtenChar) ++ "\x22"

/-- A double as a JSON number, or by name if it is none. -/
def writtenFloat : Binary64 → String
  | .nan => "NaN"
  | .infinity negative => if negative then "-Infinity" else "Infinity"
  | number => number.text

namespace Value

mutual

/-- The JSON text of a value, with a space after every comma and colon. -/
def write : Value → String
  | null => "null"
  | bool value => if value then "true" else "false"
  | int value => toString value
  | float value => writtenFloat value
  | string text => writtenText text.toChars
  | array items => "[" ++ ", ".intercalate (writeItems items) ++ "]"
  | object fields => "\x7b" ++ ", ".intercalate (writeFields fields) ++ "\x7d"

/-- The texts of the items of an array. -/
def writeItems : List Value → List String
  | [] => []
  | item :: items => item.write :: writeItems items

/-- The texts of the fields of an object. -/
def writeFields : List (CodePoints × Value) → List String
  | [] => []
  | (name, value) :: fields =>
      (writtenText name.toChars ++ ": " ++ value.write) :: writeFields fields

end

end Value

end SqlTidy.Json
