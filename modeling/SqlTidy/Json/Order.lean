/-
Module: SqlTidy.Json.Order
Purpose: When JSON values are the same, which of two comes first, and whether a list repeats one.
Main exports: Value.same, Value.precedes?, Value.allDistinct
-/
import SqlTidy.Json.Value

namespace SqlTidy.Json.Value

/-!
Two questions have two answers each.  A truth value may count as the number one or zero, or it may
be a value of its own kind; `same` takes the choice as its first argument.  And not every two
values have an order: `precedes?` is undefined for values of different kinds, for nulls and for
objects.
-/

/-- The place of a number on the line; a truth value is one or zero. -/
def number? : Value → Option Exact
  | bool value => some (.ofInt (if value then 1 else 0))
  | int value => some (.ofInt value)
  | float value => some value.exact
  | _ => none

/-- Neither value is a truth value, or both are. -/
def agreeOnBool (a b : Value) : Bool :=
  (a.kind == .bool) == (b.kind == .bool)

mutual

/-- The values are the same: equal numbers, equal texts, arrays with the same items, objects with
the same fields in any order.  The number that is none is the same as itself.  Truth values count
as numbers if `boolsCount` says so. -/
def same (boolsCount : Bool) : Value → Value → Bool
  | null, other => other.kind == .null
  | bool value, other => sameScalar boolsCount (bool value) other
  | int value, other => sameScalar boolsCount (int value) other
  | float value, other => sameScalar boolsCount (float value) other
  | string text, string other => text == other
  | array items, array others => sameItems boolsCount items others
  | object fields, object others =>
      fields.length == others.length && sameFields boolsCount fields others
  | _, _ => false

/-- The numbers are the same. -/
def sameScalar (boolsCount : Bool) (a b : Value) : Bool :=
  (boolsCount || agreeOnBool a b) &&
    match a.number?, b.number? with
    | some .nan, some .nan => true
    | some x, some y => x.eq y
    | _, _ => false

/-- The lists have the same values in the same order. -/
def sameItems (boolsCount : Bool) : List Value → List Value → Bool
  | [], [] => true
  | item :: items, other :: others =>
      same boolsCount item other && sameItems boolsCount items others
  | _, _ => false

/-- Every field has the same value among the others. -/
def sameFields (boolsCount : Bool) : List (CodePoints × Value) → List (CodePoints × Value) → Bool
  | [], _ => true
  | (name, value) :: fields, others =>
      (match others.lookup name with
        | some other => same boolsCount value other
        | none => false) &&
        sameFields boolsCount fields others

end

mutual

/-- Whether the first value comes before the second, for numbers, texts and arrays.  Texts compare
by code points; arrays compare at the first place where they differ. -/
def precedes? : Value → Value → Option Bool
  | string text, string other => some (text < other)
  | array items, array others => precedesAt? items others
  | bool value, other => numberPrecedes? (bool value) other
  | int value, other => numberPrecedes? (int value) other
  | float value, other => numberPrecedes? (float value) other
  | _, _ => none

/-- Whether the first number is less than the second. -/
def numberPrecedes? (a b : Value) : Option Bool :=
  match a.number?, b.number? with
  | some x, some y => some (x.lt y)
  | _, _ => none

/-- Whether the first list comes before the second. -/
def precedesAt? : List Value → List Value → Option Bool
  | [], others => some (!others.isEmpty)
  | _ :: _, [] => some false
  | item :: items, other :: others =>
      if same true item other then precedesAt? items others else precedes? item other

end

/-- The order that the search for repetitions uses: truth values have none. -/
def ranks? (a b : Value) : Option Bool :=
  if a.kind == .bool || b.kind == .bool then none else precedes? a b

/-- Takes values while each stands to the one before it as `follows` asks; `run` is what has been
taken, last first. -/
def takeRun (follows : Bool) : (run : List Value) → List Value →
    Option (List Value × List Value)
  | last :: run, value :: rest =>
      match ranks? value last with
      | none => none
      | some less =>
          if less == follows then takeRun follows (value :: last :: run) rest
          else some (last :: run, value :: rest)
  | run, rest => some (run, rest)

/-- The longest start of a list that is already in order, or in strictly falling order and then
turned round, and the values after it. -/
def firstRun : List Value → Option (List Value × List Value)
  | a :: b :: rest =>
      match ranks? b a with
      | none => none
      | some true => takeRun true [b, a] rest
      | some false => (takeRun false [b, a] rest).map fun (run, rest) => (run.reverse, rest)
  | values => some (values, [])

/-- The place of a value among ordered values, between `low` and `high`, by halving; it comes
after the values that it is not less than. -/
def placeOf (value : Value) (ordered : List Value) : (fuel low high : Nat) → Option Nat
  | 0, low, _ => some low
  | fuel + 1, low, high =>
      if low < high then
        let middle := low + (high - low) / 2
        match ordered[middle]? with
        | none => some low
        | some other =>
            match ranks? value other with
            | none => none
            | some true => placeOf value ordered fuel low middle
            | some false => placeOf value ordered fuel (middle + 1) high
      else some low

/-- Puts a value at its place among ordered values. -/
def insertOrdered (ordered : List Value) (value : Value) : Option (List Value) :=
  (placeOf value ordered (ordered.length + 1) 0 ordered.length).map fun place =>
    ordered.take place ++ value :: ordered.drop place

/-- The values in order, if every comparison that ordering them takes is defined. -/
def ordered? (values : List Value) : Option (List Value) :=
  match firstRun values with
  | none => none
  | some (run, rest) => rest.foldlM insertOrdered run

/-- Some value is the same as its neighbour. -/
def repeatsNeighbour : List Value → Bool
  | a :: b :: rest => same false a b || repeatsNeighbour (b :: rest)
  | _ => false

/-- Some value is the same as an earlier one. -/
def repeatsEarlier : (earlier : List Value) → List Value → Bool
  | _, [] => false
  | earlier, value :: rest =>
      earlier.any (fun other => same false other value) || repeatsEarlier (value :: earlier) rest

/-- No value of the list is found to repeat another.  Values that can be ordered are compared with
their neighbours in that order, any others with all that come before. -/
def allDistinct (values : List Value) : Bool :=
  match ordered? values with
  | some ordered => !repeatsNeighbour ordered
  | none => !repeatsEarlier [] values

end SqlTidy.Json.Value
