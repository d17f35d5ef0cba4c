/-
Module: SqlTidy.Config
Purpose: Options from configuration documents and configuration files.
Main exports: Config.options, Config.load
-/
import SqlTidy.Config.Violation
import SqlTidy.Options

namespace SqlTidy.Config

open Json (Value CodePoints Violation)

/-- The keyword set of a list of keywords. -/
def keywordsOf : Value → KeywordSet
  | .array items =>
      .ofTexts (items.filterMap fun item =>
        match item with
        | .string text => some text.toChars
        | _ => none)
  | _ => ⟨[]⟩

/-- The settings that a document makes. -/
def settings (document : Value) : List Setting :=
  match document with
  | .object fields =>
      [.indentSize ((Value.lookup fields "indentSize").getD .null),
        .keywordCase ((Value.lookup fields "keywordCase").getD .null),
        .keywords ((Value.lookup fields "keywords").map keywordsOf)]
  | _ => []

/-- The options of a document without violations, on top of the base. -/
def options (document : Value) (base : Options) : Except Fault Options :=
  match violations document with
  | .error error => .error (.display error)
  | .ok [] => base.merge (settings document)
  | .ok found =>
      .error (.config
        { message := "invalid config:\n- " ++ "\n- ".intercalate (found.map Violation.text) })

/-- Adds the path to an error of a configuration. -/
def withPath (path : Path) : Fault → Fault
  | .config error => .config { message := error.text, path := some (String.ofList path.text) }
  | fault => fault

/-- The options of a configuration file, on top of the base.  Faults of the file, of its text and
of its document are errors of the configuration; a path that no file can have and a number that is
too long are not. -/
def load (view : FileView) (path : Path) (base : Options) : Except Fault Options :=
  let shownPath := some (String.ofList path.text)
  match view.readTextBy Utf8.decodeSigned path with
  | .error (.file .nulInName) => .error (.file .nulInName path)
  | .error error => .error (.config { message := error.reason, path := shownPath })
  | .ok text =>
      match Value.read text with
      | .error (.longInteger digits) => .error (.json (.longInteger digits))
      | .error error =>
          .error (.config { message := "invalid JSON: " ++ error.message, path := shownPath })
      | .ok document => (options document base).mapError (withPath path)

end SqlTidy.Config
