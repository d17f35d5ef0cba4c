/-
Module: SqlTidy.Text.Changes
Purpose: A property of code points, stored as the places where it changes.
Main exports: Changes, Changes.holds
-/

namespace SqlTidy.Text

/-- A property of code points that begins as false and changes at each of the places. -/
structure Changes where
  places : List Nat

/-- The property holds where an odd number of changes lies at or before the code point. -/
def Changes.holds (changes : Changes) (codePoint : Nat) : Bool :=
  changes.places.countP (· ≤ codePoint) % 2 == 1

end SqlTidy.Text
