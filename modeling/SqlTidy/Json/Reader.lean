/-
Module: SqlTidy.Json.Reader
Purpose: Reading JSON texts, with the exact place of the first fault.
Main exports: ReadError, ReadError.message, Value.read
-/
import SqlTidy.Json.Value

namespace SqlTidy.Json

/-- What keeps a text from being JSON. -/
inductive Problem where
  | missingValue
  | missingName
  | missingColon
  | missingComma
  | extraData
  | openString
  | controlCharacter
  | badEscape
  | badUnicodeEscape
  | byteOrderMark
deriving Repr, DecidableEq

/-- The wording of a problem. -/
def Problem.message : Problem → String
  | .missingValue => "Expecting value"
  | .missingName => "Expecting property name enclosed in double quotes"
  | .missingColon => "Expecting ':' delimiter"
  | .missingComma => "Expecting ',' delimiter"
  | .extraData => "Extra data"
  | .openString => "Unterminated string starting at"
  | .controlCharacter => "Invalid control character at"
  | .badEscape => "Invalid \\escape"
  | .badUnicodeEscape => "Invalid \\uXXXX escape"
  | .byteOrderMark => "Unexpected UTF-8 BOM (decode using utf-8-sig)"

/-- A place in a text: the number of characters before it, and its line and column, both counted
from one. -/
structure Place where
  offset : Nat
  line : Nat
  column : Nat
deriving Repr, DecidableEq

/-- The place that `offset` characters of the text come before. -/
def Place.at (text : List Char) (offset : Nat) : Place :=
  let before := text.take offset
  { offset
    line := before.count '\n' + 1
    column := (before.reverse.takeWhile (· != '\n')).length + 1 }

/-- Why a text could not be read.  Integers have a limit on their digits, which is no fault of the
text as JSON. -/
inductive ReadError where
  | malformed (problem : Problem) (place : Place)
  | longInteger (digits : Nat)
deriving Repr, DecidableEq

/-- The wording of a failure to read. -/
def ReadError.message : ReadError → String
  | .malformed problem place =>
      problem.message ++ ": line " ++ toString place.line ++ " column " ++ toString place.column ++
        " (char " ++ toString place.offset ++ ")"
  | .longInteger digits =>
      "Exceeds the limit (" ++ toString integerDigitLimit ++
        " digits) for integer string conversion: value has " ++ toString digits ++
        " digits; use sys.set_int_max_str_digits() to increase the limit"

/-- A failure before its line and column are known. -/
inductive Failure where
  | malformed (problem : Problem) (offset : Nat)
  | longInteger (digits : Nat)

/-- The failure with its place in the text. -/
def Failure.locate (text : List Char) : Failure → ReadError
  | .malformed problem offset => .malformed problem (.at text offset)
  | .longInteger digits => .longInteger digits

/-- What is left to read, and how many characters have been read. -/
structure Cursor where
  rest : List Char
  offset : Nat

/-- The four blanks of JSON. -/
def isJsonBlank (c : Char) : Bool :=
  c == ' ' || c == '\t' || c == '\n' || c == '\r'

/-- Passes over blanks. -/
def Cursor.skipBlanks (cursor : Cursor) : Cursor :=
  ⟨cursor.rest.dropWhile isJsonBlank,
    cursor.offset + (cursor.rest.takeWhile isJsonBlank).length⟩

/-- Passes over the next `count` characters. -/
def Cursor.skip (cursor : Cursor) (count : Nat) : Cursor :=
  ⟨cursor.rest.drop count, cursor.offset + count⟩

/-- The value of a hexadecimal digit. -/
def hexDigit? (c : Char) : Option Nat :=
  if '0' ≤ c && c ≤ '9' then some (c.toNat - 0x30)
  else if 'a' ≤ c && c ≤ 'f' then some (c.toNat - 0x57)
  else if 'A' ≤ c && c ≤ 'F' then some (c.toNat - 0x37)
  else none

/-- The unit spelled by four hexadecimal digits. -/
def hexUnit? (a b c d : Char) : Option CodePoint := do
  let n := (((← hexDigit? a) * 16 + (← hexDigit? b)) * 16 + (← hexDigit? c)) * 16 + (← hexDigit? d)
  if h : n < 0x110000 then some ⟨n, h⟩ else none

/-- The character that a one-letter escape stands for. -/
def letterEscape? (c : Char) : Option Char :=
  if c == '\x22' || c == '\\' || c == '/' then some c
  else if c == 'b' then some '\x08'
  else if c == 'f' then some '\x0c'
  else if c == 'n' then some '\n'
  else if c == 'r' then some '\r'
  else if c == 't' then some '\t'
  else none

/-- The first half of a surrogate pair. -/
def isHighSurrogate (n : CodePoint) : Bool :=
  0xD800 ≤ n.val && n.val < 0xDC00

/-- The second half of a surrogate pair. -/
def isLowSurrogate (n : CodePoint) : Bool :=
  0xDC00 ≤ n.val && n.val < 0xE000

/-- Joins a unit to the code points after it: a high and a low surrogate make one code point. -/
def joinUnit (unit : CodePoint) (rest : CodePoints) : CodePoints :=
  match rest with
  | [] => [unit]
  | next :: later =>
      if isHighSurrogate unit && isLowSurrogate next then
        Fin.ofNat 0x110000 (0x10000 + (unit.val - 0xD800) * 0x400 + (next.val - 0xDC00)) :: later
      else unit :: rest

/-- Reads a string whose opening quote stands at `start`; `done` are the units read so far, last
first. -/
def readString (start : Nat) (done : CodePoints) (offset : Nat) :
    List Char → Except Failure (CodePoints × Cursor)
  | [] => .error (.malformed .openString start)
  | '\x22' :: rest => .ok (done.reverse.foldr joinUnit [], ⟨rest, offset + 1⟩)
  | ['\\'] => .error (.malformed .openString start)
  | '\\' :: 'u' :: a :: b :: c :: d :: next :: rest =>
      match hexUnit? a b c d with
      | some unit => readString start (unit :: done) (offset + 6) (next :: rest)
      | none => .error (.malformed .badUnicodeEscape (offset + 1))
  | '\\' :: 'u' :: _ => .error (.malformed .badUnicodeEscape (offset + 1))
  | '\\' :: c :: rest =>
      match letterEscape? c with
      | some escaped => readString start (CodePoint.ofChar escaped :: done) (offset + 2) rest
      | none => .error (.malformed .badEscape offset)
  | c :: rest =>
      if c.toNat < 0x20 then .error (.malformed .controlCharacter offset)
      else readString start (CodePoint.ofChar c :: done) (offset + 1) rest

/-- The number that decimal digits spell. -/
def digitsValue (digits : List Char) : Nat :=
  digits.foldl (fun n c => n * 10 + (c.toNat - 0x30)) 0

/-- The digits before the point at the start of a text: a zero, or digits that do not start with
one. -/
def wholeDigits : List Char → List Char
  | '0' :: _ => ['0']
  | text => text.takeWhile Char.isDigit

/-- The digits after the point at the start of a text, if there are any. -/
def fractionDigits : List Char → List Char
  | '.' :: rest => rest.takeWhile Char.isDigit
  | _ => []

/-- An exponent at the start of a text: the number of its characters, its sign and its digits. -/
def exponentPart : List Char → Nat × Bool × List Char
  | [] => (0, false, [])
  | e :: rest =>
      if e == 'e' || e == 'E' then
        let (signs, negative) :=
          match rest with
          | '-' :: _ => (1, true)
          | '+' :: _ => (1, false)
          | _ => (0, false)
        let digits := (rest.drop signs).takeWhile Char.isDigit
        if digits.isEmpty then (0, false, []) else (1 + signs + digits.length, negative, digits)
      else (0, false, [])

/-- Reads a number. -/
def readNumber (cursor : Cursor) : Except Failure (Value × Cursor) :=
  let negative := cursor.rest.head? == some '-'
  let signs := if negative then 1 else 0
  let unsigned := cursor.rest.drop signs
  let whole := wholeDigits unsigned
  let afterWhole := unsigned.drop whole.length
  let fraction := fractionDigits afterWhole
  let points := if fraction.isEmpty then 0 else 1 + fraction.length
  let (exponentSize, exponentNegative, exponent) := exponentPart (afterWhole.drop points)
  let next := cursor.skip (signs + whole.length + points + exponentSize)
  if whole.isEmpty then .error (.malformed .missingValue cursor.offset)
  else if points == 0 && exponentSize == 0 then
    if integerDigitLimit < whole.length then .error (.longInteger whole.length)
    else
      let n : Int := digitsValue whole
      .ok (.int (if negative then -n else n), next)
  else
    let power : Int := digitsValue exponent
    let power := (if exponentNegative then -power else power) - fraction.length
    .ok (.float (.ofDecimal negative (digitsValue (whole ++ fraction)) power), next)

/-- Gives a field its value: a name that is already there keeps its position. -/
def setField (fields : List (CodePoints × Value)) (name : CodePoints) (value : Value) :
    List (CodePoints × Value) :=
  if fields.any (·.1 == name) then
    fields.map fun field => if field.1 == name then (name, value) else field
  else fields ++ [(name, value)]

/-- Reads a value that is no string, array or object. -/
def readScalar (cursor : Cursor) : Except Failure (Value × Cursor) :=
  match cursor.rest with
  | 'n' :: 'u' :: 'l' :: 'l' :: _ => .ok (.null, cursor.skip 4)
  | 't' :: 'r' :: 'u' :: 'e' :: _ => .ok (.bool true, cursor.skip 4)
  | 'f' :: 'a' :: 'l' :: 's' :: 'e' :: _ => .ok (.bool false, cursor.skip 5)
  | 'N' :: 'a' :: 'N' :: _ => .ok (.float .nan, cursor.skip 3)
  | 'I' :: 'n' :: 'f' :: 'i' :: 'n' :: 'i' :: 't' :: 'y' :: _ =>
      .ok (.float (.infinity false), cursor.skip 8)
  | '-' :: 'I' :: 'n' :: 'f' :: 'i' :: 'n' :: 'i' :: 't' :: 'y' :: _ =>
      .ok (.float (.infinity true), cursor.skip 9)
  | _ => readNumber cursor

mutual

/-- Reads a value at the cursor. -/
def readValue : (fuel : Nat) → Cursor → Except Failure (Value × Cursor)
  | 0, cursor => .error (.malformed .missingValue cursor.offset)
  | fuel + 1, cursor =>
      match cursor.rest with
      | '\x22' :: rest =>
          match readString cursor.offset [] (cursor.offset + 1) rest with
          | .error failure => .error failure
          | .ok (text, next) => .ok (.string text, next)
      | '[' :: _ =>
          let inside := (cursor.skip 1).skipBlanks
          match inside.rest with
          | ']' :: _ => .ok (.array [], inside.skip 1)
          | _ => readItems fuel [] inside
      | '\x7b' :: _ =>
          let inside := (cursor.skip 1).skipBlanks
          match inside.rest with
          | '\x7d' :: _ => .ok (.object [], inside.skip 1)
          | _ => readFields fuel [] inside
      | _ => readScalar cursor

/-- Reads the items of an array from the cursor to the closing bracket; `done` are the items read
so far, last first. -/
def readItems : (fuel : Nat) → List Value → Cursor → Except Failure (Value × Cursor)
  | 0, _, cursor => .error (.malformed .missingValue cursor.offset)
  | fuel + 1, done, cursor =>
      match readValue fuel cursor with
      | .error failure => .error failure
      | .ok (item, next) =>
          let next := next.skipBlanks
          match next.rest with
          | ']' :: _ => .ok (.array (item :: done).reverse, next.skip 1)
          | ',' :: _ => readItems fuel (item :: done) (next.skip 1).skipBlanks
          | _ => .error (.malformed .missingComma next.offset)

/-- Reads the fields of an object from the cursor to the closing brace; `done` are the fields read
so far. -/
def readFields : (fuel : Nat) → List (CodePoints × Value) → Cursor →
    Except Failure (Value × Cursor)
  | 0, _, cursor => .error (.malformed .missingName cursor.offset)
  | fuel + 1, done, cursor =>
      match cursor.rest with
      | '\x22' :: rest =>
          match readString cursor.offset [] (cursor.offset + 1) rest with
          | .error failure => .error failure
          | .ok (name, next) =>
              let next := next.skipBlanks
              match next.rest with
              | ':' :: _ =>
                  match readValue fuel (next.skip 1).skipBlanks with
                  | .error failure => .error failure
                  | .ok (value, next) =>
                      let next := next.skipBlanks
                      let fields := setField done name value
                      match next.rest with
                      | '\x7d' :: _ => .ok (.object fields, next.skip 1)
                      | ',' :: _ => readFields fuel fields (next.skip 1).skipBlanks
                      | _ => .error (.malformed .missingComma next.offset)
              | _ => .error (.malformed .missingColon next.offset)
      | _ => .error (.malformed .missingName cursor.offset)

end

/-- Reads one value and nothing after it but blanks.  Opening a container and going on to its next
member each take one unit of fuel and at least one character, so the fuel never runs out. -/
def readDocument (text : List Char) : Except Failure Value :=
  if text.head? == some (Char.ofNat 0xFEFF) then .error (.malformed .byteOrderMark 0)
  else
    match readValue (2 * text.length + 2) (Cursor.mk text 0).skipBlanks with
    | .error failure => .error failure
    | .ok (value, next) =>
        let next := next.skipBlanks
        if next.rest.isEmpty then .ok value else .error (.malformed .extraData next.offset)

/-- Reads a JSON text. -/
def Value.read (text : List Char) : Except ReadError Value :=
  (readDocument text).mapError (Failure.locate text)

end SqlTidy.Json
