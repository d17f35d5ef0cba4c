/-
Module: SqlTidy.Error
Purpose: The errors that the formatter reports to its user.
Main exports: ConfigError, InputError
-/

namespace SqlTidy

/-- A configuration that cannot be used, and the file that it came from, if any. -/
structure ConfigError where
  message : String
  path : Option String := none
deriving Repr, DecidableEq

/-- The wording of a configuration error: the file comes first, if it has a name. -/
def ConfigError.text (error : ConfigError) : String :=
  match error.path with
  | some path => if path.isEmpty then error.message else path ++ ": " ++ error.message
  | none => error.message

/-- An input file that cannot be read. -/
structure InputError where
  path : String
  reason : String
deriving Repr, DecidableEq

/-- The wording of an input error. -/
def InputError.text (error : InputError) : String :=
  "cannot read " ++ error.path ++ ": " ++ error.reason

end SqlTidy
