/-
Module: SqlTidy.Text.Division
Purpose: Dividing a sequence into runs.
Main exports: OpenRun, divide
-/

namespace SqlTidy.Text

/-- A run of items that is still being read, from the right, and the runs after it. -/
structure OpenRun (α : Type) where
  run : List α
  later : List (List α)

namespace OpenRun

variable {α : Type}

/-- Ends the open run; an empty run leaves no trace. -/
def close (state : OpenRun α) : List (List α) :=
  match state.run with
  | [] => state.later
  | run => run :: state.later

/-- Reads one more item: an item that divides belongs to no run, an item that stands alone is a run
by itself, and any other item extends the open run. -/
def read (divides standsAlone : α → Bool) (item : α) (state : OpenRun α) : OpenRun α :=
  if divides item then ⟨[], state.close⟩
  else if standsAlone item then ⟨[], [item] :: state.close⟩
  else ⟨item :: state.run, state.later⟩

end OpenRun

/-- The maximal runs of the items that neither divide nor stand alone, in order, with the items that
stand alone as runs of their own between them. -/
def divide {α : Type} (divides standsAlone : α → Bool) (items : List α) : List (List α) :=
  (items.foldr (OpenRun.read divides standsAlone) ⟨[], []⟩).close

end SqlTidy.Text
