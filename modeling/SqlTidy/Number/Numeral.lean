/-
Module: SqlTidy.Number.Numeral
Purpose: Integers as people write them, in the digits of any script.
Main exports: integer?, indentSize?
-/
import SqlTidy.Fault
import SqlTidy.Text.Blank
import SqlTidy.Text.DecimalDigit

namespace SqlTidy

open Text

/-- A blank that may surround a numeral: any but the separator controls. -/
def isNumeralBlank (c : Char) : Bool :=
  isBlank c && !(0x1C ≤ c.toNat && c.toNat ≤ 0x1F)

/-- The values of decimal digits with single underscores between some of them; `done` are the
digits before, last first. -/
def numeralDigits? (done : List Nat) : List Char → Option (List Nat)
  | [] => if done.isEmpty then none else some done.reverse
  | '_' :: c :: rest =>
      if done.isEmpty then none
      else
        match decimalDigit? c with
        | some digit => numeralDigits? (digit :: done) rest
        | none => none
  | c :: rest =>
      match decimalDigit? c with
      | some digit => numeralDigits? (digit :: done) rest
      | none => none

/-- The integer that a text spells: blanks around it, at most one sign, and at least one digit, but
not more than the limit. -/
def integer? (text : List Char) : Option Int :=
  let bare := ((text.dropWhile isNumeralBlank).reverse.dropWhile isNumeralBlank).reverse
  let (negative, unsigned) :=
    match bare with
    | '-' :: rest => (true, rest)
    | '+' :: rest => (false, rest)
    | rest => (false, rest)
  match numeralDigits? [] unsigned with
  | none => none
  | some digits =>
      if Json.integerDigitLimit < digits.length then none
      else
        let n : Nat := digits.foldl (fun n digit => n * 10 + digit) 0
        some (if negative then -(n : Int) else n)

/-- The indent size that a text spells. -/
def indentSize? (text : List Char) : Except Fault Nat :=
  match integer? text with
  | some (.ofNat n) => .ok n
  | _ => .error (.badIndent text)

end SqlTidy
