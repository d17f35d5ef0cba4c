/-
Module: SqlTidy.Number.Shortest
Purpose: The decimal text of a double with the fewest digits that read back as it.
Main exports: Binary64.shortest, Binary64.text
-/
import SqlTidy.Number.Binary64

namespace SqlTidy.Binary64

/-!
A double stands for an interval of the line: everything that rounds to it.  Its shortest text has
the fewest digits of any decimal in the interval, and among those it is the one nearest to the
double itself.  All bounds are kept as natural numbers over one common denominator.
-/

/-- A positive double and the interval that rounds to it, over one denominator; the ends belong
to the interval if it is closed. -/
structure Neighbourhood where
  low : Nat
  value : Nat
  high : Nat
  denominator : Nat
  closed : Bool

/-- The neighbourhood of `mantissa * 2 ^ exponent`.  Below a power of two the doubles are twice as
dense. -/
def neighbourhood (mantissa : Nat) (exponent : Int) : Neighbourhood :=
  let below := if mantissa == Nat.pow 2 52 && leastExponent < exponent then 1 else 2
  let (unit, denominator) :=
    if exponent < 2 then (1, Nat.pow 2 (2 - exponent).toNat)
    else (Nat.pow 2 (exponent - 2).toNat, 1)
  { low := (4 * mantissa - below) * unit
    value := 4 * mantissa * unit
    high := (4 * mantissa + 2) * unit
    denominator
    closed := mantissa % 2 == 0 }

namespace Neighbourhood

/-- The decimal `digits * 10 ^ exponent`, as a numerator over the same denominator times the
second component. -/
def numerator (n : Neighbourhood) (digits : Nat) (exponent : Int) : Nat × Nat :=
  if exponent < 0 then (digits * n.denominator, Nat.pow 10 exponent.natAbs)
  else (digits * n.denominator * Nat.pow 10 exponent.natAbs, 1)

/-- The decimal lies in the interval. -/
def holds (n : Neighbourhood) (digits : Nat) (exponent : Int) : Bool :=
  let (num, factor) := n.numerator digits exponent
  if n.closed then n.low * factor ≤ num && num ≤ n.high * factor
  else n.low * factor < num && num < n.high * factor

/-- The multiple of `10 ^ exponent` at or below the value. -/
def floor (n : Neighbourhood) (exponent : Int) : Nat :=
  if exponent < 0 then n.value * Nat.pow 10 exponent.natAbs / n.denominator
  else n.value / (n.denominator * Nat.pow 10 exponent.natAbs)

/-- The second of two neighbouring decimals is nearer to the value, or as near and even. -/
def prefersUpper (n : Neighbourhood) (digits : Nat) (exponent : Int) : Bool :=
  let (lower, factor) := n.numerator digits exponent
  let (upper, _) := n.numerator (digits + 1) exponent
  let below := n.value * factor - lower
  let above := upper - n.value * factor
  above < below || (above == below && digits % 2 == 1)

/-- The better of the two decimals around the value on the grid of `10 ^ exponent`, if one of them
lies in the interval. -/
def onGrid? (n : Neighbourhood) (exponent : Int) : Option (Nat × Int) :=
  let digits := n.floor exponent
  let lower := n.holds digits exponent
  let upper := n.holds (digits + 1) exponent
  if lower && upper then
    some (if n.prefersUpper digits exponent then digits + 1 else digits, exponent)
  else if lower then some (digits, exponent)
  else if upper then some (digits + 1, exponent)
  else none

/-- The power of ten just above the value: the least `k` with the value below `10 ^ k`, searched
downward from a bound. -/
def magnitude (n : Neighbourhood) : (fuel : Nat) → (k : Int) → Int
  | 0, k => k
  | fuel + 1, k => if n.floor (k - 1) == 0 then magnitude n fuel (k - 1) else k

/-- The first grid, from the coarsest, that has a decimal in the interval. -/
def firstGrid (n : Neighbourhood) : (fuel : Nat) → (exponent : Int) → Nat × Int
  | 0, exponent => (n.floor exponent, exponent)
  | fuel + 1, exponent =>
      match n.onGrid? exponent with
      | some found => found
      | none => firstGrid n fuel (exponent - 1)

end Neighbourhood

/-- The digits and the power of ten of the shortest decimal that reads back as a positive
double. -/
def shortest (mantissa : Nat) (exponent : Int) : Nat × Int :=
  let n := neighbourhood mantissa exponent
  n.firstGrid 18 (n.magnitude 650 310)

/-- The text of a positive decimal: positional for numbers from `0.0001` to below `10 ^ 16`, else
one digit before the point and a signed exponent of at least two digits. -/
def decimalText (digits : Nat) (exponent : Int) : String :=
  let significant := ((Nat.toDigits 10 digits).reverse.dropWhile (· == '0')).reverse
  let point : Int := (Nat.toDigits 10 digits).length + exponent
  let count := significant.length
  if point < -3 || 16 < point then
    let shown := point - 1
    let power := Nat.toDigits 10 shown.natAbs
    let power := if power.length < 2 then '0' :: power else power
    let fraction := if count ≤ 1 then [] else '.' :: significant.drop 1
    String.ofList
      (significant.take 1 ++ fraction ++ ['e', if shown < 0 then '-' else '+'] ++ power)
  else if point ≤ 0 then
    String.ofList (['0', '.'] ++ List.replicate point.natAbs '0' ++ significant)
  else if point < count then
    String.ofList (significant.take point.natAbs ++ ['.'] ++ significant.drop point.natAbs)
  else
    String.ofList
      (significant ++ List.replicate (point.natAbs - count) '0' ++ ['.', '0'])

/-- The text of a double. -/
def text : Binary64 → String
  | .nan => "nan"
  | .infinity negative => if negative then "-inf" else "inf"
  | .finite negative mantissa exponent _ =>
      let sign := if negative then "-" else ""
      if mantissa == 0 then sign ++ "0.0"
      else
        let (digits, power) := shortest mantissa exponent
        sign ++ decimalText digits power

end SqlTidy.Binary64
