/-
Module: SqlTidy.Config.Violation
Purpose: What is wrong with a configuration document.
Main exports: Config.violationsBy, Config.violations
-/
import SqlTidy.Config.Document
import SqlTidy.Json.Schema

namespace SqlTidy.Config

open Json (Value Violation Report Validator)

/-- The first place does not come after the second: places compare name by name, as texts. -/
def placeLe (a b : Violation) : Bool :=
  Text.notAfter (fun name other => !Text.textNotAfter other.toList name.toList) a.place b.place

/-- Everything that a validator finds wrong with a document by the schema of configurations, ordered
by place. -/
def violationsBy (validator : Validator) (document : Value) : Report :=
  (validator.check schema document).map fun found => found.mergeSort placeLe

/-- Everything that is wrong with a document, ordered by place. -/
def violations (document : Value) : Report :=
  violationsBy .standard document

end SqlTidy.Config
