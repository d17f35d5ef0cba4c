/-
Module: SqlTidy.Json.Schema
Purpose: Checks of JSON values against schemas, and what they find.
Main exports: Violation, Violation.text, Report, Validator, Validator.standard
-/
import SqlTidy.Json.Order
import SqlTidy.Text.Order
import SqlTidy.Text.Pattern

namespace SqlTidy.Json

/-!
A schema is an object whose fields are keywords.  Some keywords ask something of a value, others
pass parts of the value on to further schemas, and those that only describe find nothing.

A `Validator` is any way to check values against schemas; which one is used is left open to those
who ask what a schema finds.  `Validator.standard` goes by the rules, for the keywords and the forms
of their arguments that occur in the schemas of this library.
-/

/-- A fault of a value: the names and positions that lead to the faulty part, and what is wrong with
it. -/
structure Violation where
  place : List String
  message : String
deriving Repr, DecidableEq

namespace Violation

/-- A violation as one line of text. -/
def text (violation : Violation) : String :=
  let place :=
    match violation.place with
    | [] => "<root>"
    | place => "/".intercalate place
  place ++ ": " ++ violation.message

/-- A violation of a part of a value, as one of the value. -/
def within (name : String) (violation : Violation) : Violation :=
  { violation with place := name :: violation.place }

end Violation

/-- What a check finds, in the order in which it is found.  A message shows the value that it is
about, and nothing is reported at all if that fails. -/
abbrev Report := Except DisplayError (List Violation)

namespace Report

/-- Everything that checks find, one after the other. -/
def collect : List Report → Report
  | [] => .ok []
  | report :: reports => do
      let found ← report
      let others ← collect reports
      return found ++ others

/-- What is found in a part of a value, as found in the value. -/
def within (name : String) (report : Report) : Report :=
  report.map (List.map (Violation.within name))

/-- Finds a violation of the value if a condition fails. -/
def require (holds : Bool) (value : Value) (reason : String) : Report :=
  if holds then .ok []
  else do
    let shown ← value.display
    return [⟨[], shown ++ reason⟩]

/-- Finds a violation of the value if a condition fails that it should meet by the argument of a
keyword. -/
def requireBy (argument : Value) (holds : Bool) (value : Value) (reason : String) : Report :=
  if holds then .ok []
  else do
    let shown ← value.display
    let shownArgument ← argument.display
    return [⟨[], shown ++ reason ++ shownArgument⟩]

end Report

/-- A way to check values: what a schema finds in a value, and what a keyword of a schema finds
there. -/
structure Validator where
  check : (schema value : Value) → Report
  keyword : (name : String) → (argument schema value : Value) → Report

namespace Schema

/-! ### What is asked of a value itself -/

/-- An integer, or a double that has the value of one; a truth value is none. -/
def isIntegral : Value → Bool
  | .int _ => true
  | .float value => value.isIntegral
  | _ => false

/-- The value is of the type with the name. -/
def isOfType (name value : Value) : Bool :=
  (name.isString "object" && value.kind == .object) ||
    (name.isString "array" && value.kind == .array) ||
    (name.isString "string" && value.kind == .string) ||
    (name.isString "integer" && isIntegral value)

/-- The value is one of the items of the array. -/
def isAmong (options value : Value) : Bool :=
  match options with
  | .array options => options.any fun option => option.same false value
  | _ => false

/-- The value is a number below the bound; a truth value is no number. -/
def isBelow (bound value : Value) : Bool :=
  value.kind != .bool &&
    match value.number?, bound.number? with
    | some number, some bound => number.lt bound
    | _, _ => false

/-- The value is an array of fewer items than the bound. -/
def isShorter (bound value : Value) : Bool :=
  match bound, value with
  | .int bound, .array items => (items.length : Int) < bound
  | _, _ => false

/-- The value is an array that is found to repeat an item, if that is asked for. -/
def repeatsItem (asked value : Value) : Bool :=
  match asked, value with
  | .bool true, .array items => !Value.allDistinct items
  | _, _ => false

/-- The value is a string in which the pattern is not found. -/
def misses (written value : Value) : Bool :=
  match written, value with
  | .string written, .string text =>
      match Text.Pattern.parse? written.toChars with
      | some pattern => !pattern.isFound (text.map Fin.val)
      | none => false
  | _, _ => false

/-- The names that a schema has properties for. -/
def propertyNames : Value → List CodePoints
  | .object keywords =>
      match Value.lookup keywords "properties" with
      | some (.object properties) => properties.map (·.1)
      | _ => []
  | _ => []

/-- The names of fields that a schema has no properties for, in order. -/
def unknownNames (schema value : Value) : List CodePoints :=
  match value with
  | .object fields =>
      ((fields.map (·.1)).filter fun name => !(propertyNames schema).contains name).mergeSort
        (Text.notAfter fun a b => decide (a.val < b.val))
  | _ => []

/-- The complaint about names of fields, if there are any and they are not allowed. -/
def refuseNames (allowed : Value) (names : List CodePoints) : Report :=
  match allowed, names with
  | .bool false, _ :: _ =>
      let verb := if names.length == 1 then "was" else "were"
      .ok [⟨[], "Additional properties are not allowed (" ++
        ", ".intercalate (names.map CodePoints.quoted) ++ " " ++ verb ++ " unexpected)"⟩]
  | _, _ => .ok []

/-- What a keyword finds that looks at a value and at none of its parts. -/
def assertion (name : String) (argument schema value : Value) : Report :=
  if name == "type" then
    .requireBy argument (isOfType argument value) value " is not of type "
  else if name == "enum" then
    .requireBy argument (isAmong argument value) value " is not one of "
  else if name == "minimum" then
    .requireBy argument (!isBelow argument value) value " is less than the minimum of "
  else if name == "minItems" then
    .require (!isShorter argument value) value
      (if argument.kind == .int && argument.same false (.int 1) then " should be non-empty"
        else " is too short")
  else if name == "uniqueItems" then
    .require (!repeatsItem argument value) value " has non-unique elements"
  else if name == "pattern" then
    .requireBy argument (!misses argument value) value " does not match "
  else if name == "additionalProperties" then
    refuseNames argument (unknownNames schema value)
  else .ok []

/-! ### What schemas find -/

mutual

/-- What a schema finds in a value. -/
def check : (schema value : Value) → Report
  | .object keywords, value => checkKeywords (.object keywords) keywords value
  | _, _ => .ok []
termination_by structural schema => schema

/-- What keywords of a schema find in a value, in order. -/
def checkKeywords (schema : Value) :
    (keywords : List (CodePoints × Value)) → (value : Value) → Report
  | [], _ => .ok []
  | (name, argument) :: rest, value => do
      let found ← checkKeyword (String.ofList name.toChars) argument schema value
      let others ← checkKeywords schema rest value
      return found ++ others
termination_by structural keywords => keywords

/-- What one keyword of a schema finds in a value.  Two keywords pass parts of the value on: the
fields to a schema for each name, and the items to one for all of them. -/
def checkKeyword (name : String) : (argument schema value : Value) → Report
  | .object parts, schema, value =>
      if name == "properties" then
        match value with
        | .object fields => checkProperties parts fields
        | _ => .ok []
      else if name == "items" then
        match value with
        | .array items =>
            .collect (items.mapIdx fun index item =>
              (checkKeywords (.object parts) parts item).within (toString index))
        | _ => .ok []
      else assertion name (.object parts) schema value
  | argument, schema, value => assertion name argument schema value
termination_by structural argument => argument

/-- What the schemas of properties find in the fields that they are for. -/
def checkProperties : (properties fields : List (CodePoints × Value)) → Report
  | [], _ => .ok []
  | (name, schema) :: rest, fields => do
      let found ←
        match fields.lookup name with
        | some value => (check schema value).within (String.ofList name.toChars)
        | none => .ok []
      let others ← checkProperties rest fields
      return found ++ others
termination_by structural properties => properties

end

end Schema

/-- The check by the rules. -/
def Validator.standard : Validator :=
  { check := Schema.check, keyword := Schema.checkKeyword }

end SqlTidy.Json
