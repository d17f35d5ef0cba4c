/-
Module: SqlTidy.Text.Utf8
Purpose: Text as bytes, and the exact fault of bytes that are no text.
Main exports: Utf8.encode, Utf8.decode, Utf8.Fault, Utf8.decodeSigned
-/
import SqlTidy.Text.Quoted

namespace SqlTidy.Utf8

/-- Why bytes could not be read as a character. -/
inductive Reason where
  | badStart
  | badContinuation
  | cutOff
deriving Repr, DecidableEq

/-- The wording of a reason. -/
def Reason.message : Reason → String
  | .badStart => "invalid start byte"
  | .badContinuation => "invalid continuation byte"
  | .cutOff => "unexpected end of data"

/-- Bytes that are no character: where they stand, the first of them, and how many they are. -/
structure Fault where
  position : Nat
  first : UInt8
  count : Nat
  reason : Reason
deriving Repr, DecidableEq

/-- The wording of a fault: one byte is shown, several are given by their positions. -/
def Fault.message (fault : Fault) : String :=
  let place :=
    if fault.count ≤ 1 then
      "byte 0x" ++ Text.hexDigits 2 fault.first.toNat ++ " in position " ++ toString fault.position
    else
      "bytes in position " ++ toString fault.position ++ "-" ++
        toString (fault.position + fault.count - 1)
  "'utf-8' codec can't decode " ++ place ++ ": " ++ fault.reason.message

/-- The bytes of a character. -/
def encodeChar (c : Char) : List UInt8 :=
  let n := c.toNat
  if n < 0x80 then [n.toUInt8]
  else if n < 0x800 then [(0xC0 + n / 0x40).toUInt8, (0x80 + n % 0x40).toUInt8]
  else if n < 0x10000 then
    [(0xE0 + n / 0x1000).toUInt8, (0x80 + n / 0x40 % 0x40).toUInt8, (0x80 + n % 0x40).toUInt8]
  else
    [(0xF0 + n / 0x40000).toUInt8, (0x80 + n / 0x1000 % 0x40).toUInt8,
      (0x80 + n / 0x40 % 0x40).toUInt8, (0x80 + n % 0x40).toUInt8]

/-- The bytes of a text. -/
def encode (text : List Char) : List UInt8 :=
  text.flatMap encodeChar

/-- A byte that may follow in a character. -/
def isContinuation (b : UInt8) : Bool :=
  0x80 ≤ b && b ≤ 0xBF

/-- A byte that may follow the first byte of three: the shortest spelling is required, and
surrogates are no characters. -/
def isSecondOfThree (first second : UInt8) : Bool :=
  isContinuation second && (first != 0xE0 || 0xA0 ≤ second) && (first != 0xED || second ≤ 0x9F)

/-- A byte that may follow the first byte of four: the shortest spelling is required, and code
points end at `10FFFF`. -/
def isSecondOfFour (first second : UInt8) : Bool :=
  isContinuation second && (first != 0xF0 || 0x90 ≤ second) && (first != 0xF4 || second ≤ 0x8F)

/-- The character of two bytes. -/
def char2 (a b : UInt8) : Char :=
  Char.ofNat ((a.toNat - 0xC0) * 0x40 + (b.toNat - 0x80))

/-- The character of three bytes. -/
def char3 (a b c : UInt8) : Char :=
  Char.ofNat ((a.toNat - 0xE0) * 0x1000 + (b.toNat - 0x80) * 0x40 + (c.toNat - 0x80))

/-- The character of four bytes. -/
def char4 (a b c d : UInt8) : Char :=
  Char.ofNat
    ((a.toNat - 0xF0) * 0x40000 + (b.toNat - 0x80) * 0x1000 + (c.toNat - 0x80) * 0x40 +
      (d.toNat - 0x80))

/-- Decodes the bytes from a position on; `done` are the characters before, last first. -/
def decodeFrom (done : List Char) (position : Nat) : List UInt8 → Except Fault (List Char)
  | [] => .ok done.reverse
  | a :: rest =>
      if a < 0x80 then decodeFrom (Char.ofNat a.toNat :: done) (position + 1) rest
      else if a < 0xC2 || 0xF4 < a then .error ⟨position, a, 1, .badStart⟩
      else if a < 0xE0 then
        match rest with
        | [] => .error ⟨position, a, 1, .cutOff⟩
        | b :: rest =>
            if isContinuation b then decodeFrom (char2 a b :: done) (position + 2) rest
            else .error ⟨position, a, 1, .badContinuation⟩
      else if a < 0xF0 then
        match rest with
        | [] => .error ⟨position, a, 1, .cutOff⟩
        | b :: rest =>
            if isSecondOfThree a b then
              match rest with
              | [] => .error ⟨position, a, 2, .cutOff⟩
              | c :: rest =>
                  if isContinuation c then decodeFrom (char3 a b c :: done) (position + 3) rest
                  else .error ⟨position, a, 2, .badContinuation⟩
            else .error ⟨position, a, 1, .badContinuation⟩
      else
        match rest with
        | [] => .error ⟨position, a, 1, .cutOff⟩
        | b :: rest =>
            if isSecondOfFour a b then
              match rest with
              | [] => .error ⟨position, a, 2, .cutOff⟩
              | c :: rest =>
                  if isContinuation c then
                    match rest with
                    | [] => .error ⟨position, a, 3, .cutOff⟩
                    | d :: rest =>
                        if isContinuation d then
                          decodeFrom (char4 a b c d :: done) (position + 4) rest
                        else .error ⟨position, a, 3, .badContinuation⟩
                  else .error ⟨position, a, 2, .badContinuation⟩
            else .error ⟨position, a, 1, .badContinuation⟩

/-- The text of bytes.  A byte-order mark is a character like any other. -/
def decode (bytes : List UInt8) : Except Fault (List Char) :=
  decodeFrom [] 0 bytes

/-- The text of bytes that may start with a byte-order mark, which is left out; positions count
from after it.  A mark that is cut off by the end is left out too. -/
def decodeSigned : List UInt8 → Except Fault (List Char)
  | 0xEF :: 0xBB :: 0xBF :: rest => decode rest
  | [0xEF, 0xBB] => .ok []
  | [0xEF] => .ok []
  | bytes => decode bytes

end SqlTidy.Utf8
