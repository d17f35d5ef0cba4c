/-
Module: SqlTidy.Json.Value
Purpose: JSON values, with integers, doubles and unpaired surrogates kept apart.
Main exports: CodePoint, CodePoints, Value, Value.kind, DisplayError, Value.display
-/
import SqlTidy.Number.Shortest
import SqlTidy.Text.Quoted

namespace SqlTidy.Json

/-- A code point.  The escapes of a JSON string can spell a surrogate without its partner, so a code
point need not be a character. -/
abbrev CodePoint := Fin 0x110000

/-- The text of a JSON string. -/
abbrev CodePoints := List CodePoint

namespace CodePoint

/-- The code point of a character. -/
def ofChar (c : Char) : CodePoint :=
  ⟨c.toNat, by
    have := c.valid
    simp only [UInt32.isValidChar, Nat.isValidChar] at this
    simp only [Char.toNat]
    omega⟩

/-- The character of a code point, if it is one. -/
def toChar? (n : CodePoint) : Option Char :=
  if n.val < 0xD800 || 0xDFFF < n.val then some (Char.ofNat n.val) else none

end CodePoint

namespace CodePoints

/-- The code points of a text. -/
def ofChars (text : List Char) : CodePoints :=
  text.map CodePoint.ofChar

/-- The code points of a string. -/
def ofString (text : String) : CodePoints :=
  ofChars text.toList

/-- The characters of a text; an unpaired surrogate becomes the replacement character. -/
def toChars (text : CodePoints) : List Char :=
  text.map fun n => (CodePoint.toChar? n).getD (Char.ofNat 0xFFFD)

/-- The text in quotes. -/
def quoted (text : CodePoints) : String :=
  Text.quoted (text.map Fin.val)

end CodePoints

/-- A JSON value.  A number without fraction and exponent is an integer of any size, any other
number is a double.  The fields of an object are in the order of their first appearance.  A
list of fields may repeat a name, and then the first field with it counts; no text is read as such an
object. -/
inductive Value where
  | null
  | bool (value : Bool)
  | int (value : Int)
  | float (value : Binary64)
  | string (text : CodePoints)
  | array (items : List Value)
  | object (fields : List (CodePoints × Value))
deriving Repr

/-- The seven kinds of values. -/
inductive Kind where
  | null
  | bool
  | int
  | float
  | string
  | array
  | object
deriving Repr, DecidableEq

/-- The name of a kind in messages. -/
def Kind.name : Kind → String
  | .null => "NoneType"
  | .bool => "bool"
  | .int => "int"
  | .float => "float"
  | .string => "str"
  | .array => "list"
  | .object => "dict"

/-- The greatest number of digits of an integer that is read from a text or written to one. -/
def integerDigitLimit : Nat := 4300

/-- Why a value has no form in messages. -/
inductive DisplayError where
  /-- An integer in it has too many digits. -/
  | longInteger
deriving Repr, DecidableEq

/-- The wording of a failure to show a value. -/
def DisplayError.message : DisplayError → String
  | .longInteger =>
      "Exceeds the limit (" ++ toString integerDigitLimit ++
        " digits) for integer string conversion; use sys.set_int_max_str_digits() to increase " ++
        "the limit"

namespace Value

/-- The string value of a text. -/
def ofChars (text : List Char) : Value :=
  .string (.ofChars text)

/-- The string value of a string. -/
def ofString (text : String) : Value :=
  .string (.ofString text)

/-- An object with the given fields, whose names are distinct. -/
def record (fields : List (String × Value)) : Value :=
  .object (fields.map fun (name, value) => (CodePoints.ofString name, value))

/-- The kind of a value. -/
def kind : Value → Kind
  | null => .null
  | bool _ => .bool
  | int _ => .int
  | float _ => .float
  | string _ => .string
  | array _ => .array
  | object _ => .object

/-- A value that stands for nothing: null, false, a zero, or an empty text, array or object. -/
def isVoid : Value → Bool
  | null => true
  | bool value => !value
  | int value => value == 0
  | float value => value.exact.eq (.ofInt 0)
  | string text => text.isEmpty
  | array items => items.isEmpty
  | object fields => fields.isEmpty

/-- The value is this string. -/
def isString (value : Value) (text : String) : Bool :=
  match value with
  | string found => found == CodePoints.ofString text
  | _ => false

/-- The value of a field. -/
def lookup (fields : List (CodePoints × Value)) (name : String) : Option Value :=
  List.lookup (CodePoints.ofString name) fields

mutual

/-- The form of a value in messages: quoted texts, `None`, `True` and `False`, brackets around
items and braces around fields. -/
def display : Value → Except DisplayError String
  | null => .ok "None"
  | bool value => .ok (if value then "True" else "False")
  | int value =>
      if value.natAbs < Nat.pow 10 integerDigitLimit then .ok (toString value)
      else .error .longInteger
  | float value => .ok value.text
  | string text => .ok text.quoted
  | array items =>
      (displayItems items).map fun shown => "[" ++ ", ".intercalate shown ++ "]"
  | object fields =>
      (displayFields fields).map fun shown => "\x7b" ++ ", ".intercalate shown ++ "\x7d"

/-- The forms of the items of an array. -/
def displayItems : List Value → Except DisplayError (List String)
  | [] => .ok []
  | item :: items => do
      let shown ← item.display
      let others ← displayItems items
      return shown :: others

/-- The forms of the fields of an object. -/
def displayFields : List (CodePoints × Value) → Except DisplayError (List String)
  | [] => .ok []
  | (name, value) :: fields => do
      let shown ← value.display
      let others ← displayFields fields
      return (name.quoted ++ ": " ++ shown) :: others

end

end Value

end SqlTidy.Json
