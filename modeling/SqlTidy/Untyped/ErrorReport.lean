/-
Module: SqlTidy.Untyped.ErrorReport
Purpose: Errors of the library built from values, and what they report.
Main exports: Untyped.ErrorKind, Untyped.ErrorReport, Untyped.reportError
-/
import SqlTidy.Untyped.BufferScript

namespace SqlTidy.Untyped

open Json (Value)

/-- The kinds of errors: of a configuration, of an input, and of nothing in particular. -/
inductive ErrorKind where
  | config
  | input
  | general
deriving Repr, DecidableEq

/-- What an error reports. -/
structure ErrorReport where
  message : String
  path : Value := .null
  reason : Value := .null

/-- A value within a message: a text stands as it is. -/
def shown : Value → Except Fault String
  | .string text => .ok (String.ofList text.toChars)
  | value => value.display.mapError .display

/-- The report of an error that is built from values. -/
def reportError (kind : ErrorKind) (arguments : List Value) : Except Fault ErrorReport := do
  match kind with
  | .config =>
      checkArity ⟨"ConfigError.__init__", ["message"], 1⟩ arguments
      let message := arguments[0]?.getD .null
      let path := arguments[1]?.getD .null
      let message ← shown message
      let shownPath ← if path.isVoid then .ok none else (shown path).map some
      .ok ⟨(ConfigError.mk message shownPath).text, path, .null⟩
  | .input =>
      checkArity ⟨"InputError.__init__", ["path", "reason"], 0⟩ arguments
      let path := arguments[0]?.getD .null
      let reason := arguments[1]?.getD .null
      let shownPath ← shown path
      let shownReason ← shown reason
      .ok ⟨(InputError.mk shownPath shownReason).text, path, reason⟩
  | .general =>
      match arguments with
      | [] => .ok ⟨"", .null, .null⟩
      | [argument] => .ok ⟨← shown argument, .null, .null⟩
      | _ =>
          let texts ← (Value.displayItems arguments).mapError .display
          .ok ⟨"(" ++ ", ".intercalate texts ++ ")", .null, .null⟩

end SqlTidy.Untyped
