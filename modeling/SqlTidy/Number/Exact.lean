/-
Module: SqlTidy.Number.Exact
Purpose: Exact comparison of numbers of different kinds.
Main exports: Exact, Exact.lt, Exact.eq
-/

namespace SqlTidy

/-- A number as a place on the line: `mantissa * 2 ^ exponent`, one of the two infinities, or no
place at all. -/
inductive Exact where
  | nan
  | infinity (negative : Bool)
  | dyadic (mantissa exponent : Int)
deriving Repr, DecidableEq

namespace Exact

/-- The place of an integer. -/
def ofInt (n : Int) : Exact :=
  .dyadic n 0

/-- The mantissas of two numbers, brought to the smaller of their exponents. -/
def align (m e n f : Int) : Int × Int :=
  let least := min e f
  (m * Int.pow 2 (e - least).toNat, n * Int.pow 2 (f - least).toNat)

/-- The first number is less than the second; no place is less than any other. -/
def lt : Exact → Exact → Bool
  | .nan, _ => false
  | _, .nan => false
  | .infinity a, .infinity b => a && !b
  | .infinity a, .dyadic _ _ => a
  | .dyadic _ _, .infinity b => !b
  | .dyadic m e, .dyadic n f => let (a, b) := align m e n f; a < b

/-- The numbers stand at the same place. -/
def eq : Exact → Exact → Bool
  | .infinity a, .infinity b => a == b
  | .dyadic m e, .dyadic n f => let (a, b) := align m e n f; a == b
  | _, _ => false

end Exact

end SqlTidy
