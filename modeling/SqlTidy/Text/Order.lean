/-
Module: SqlTidy.Text.Order
Purpose: The order of texts by code points.
Main exports: notAfter, textNotAfter
-/

namespace SqlTidy.Text

/-- The first sequence does not come after the second: the first items that differ decide, and a
sequence comes after each of its beginnings. -/
def notAfter {α : Type} (precedes : α → α → Bool) : List α → List α → Bool
  | [], _ => true
  | _ :: _, [] => false
  | a :: as, b :: bs => precedes a b || (!precedes b a && notAfter precedes as bs)

/-- The first text does not come after the second. -/
def textNotAfter : List Char → List Char → Bool :=
  notAfter fun c d => decide (c.toNat < d.toNat)

end SqlTidy.Text
