/-
Module: SqlTidy.Options
Purpose: Formatting options as they are given, and the style that they amount to.
Main exports: Options, Setting, Options.merge, Options.style, Options.format
-/
import SqlTidy.Fault
import SqlTidy.Format
import SqlTidy.Json.Order

namespace SqlTidy

open Json (Value)

/-!
Options keep the values that they are given, whatever their kind: a configuration may spell the
indent size with a decimal point, and a caller may pass anything.  Whether the values make sense is
decided when a `Style` is asked for.
-/

/-- Formatting options. -/
structure Options where
  indentSize : Value := .int 2
  keywordCase : Value := .ofString "upper"
  keywords : Option KeywordSet := some .standard

/-- A value for one option.  Nothing is said by a null or by no keyword set. -/
inductive Setting where
  | indentSize (value : Value)
  | keywordCase (value : Value)
  | keywords (set : Option KeywordSet)
  | other (name : String) (value : Value)

namespace Setting

/-- The setting says nothing. -/
def isSilent : Setting → Bool
  | indentSize value => value.kind == .null
  | keywordCase value => value.kind == .null
  | keywords set => set.isNone
  | other _ value => value.kind == .null

/-- The setting goes by a name. -/
def isNamed (name : String) : Setting → Bool
  | other found _ => found == name
  | _ => false

end Setting

namespace Options

/-- Sets one option, also to nothing. -/
def assign (options : Options) : Setting → Except Fault Options
  | .indentSize value => .ok { options with indentSize := value }
  | .keywordCase value => .ok { options with keywordCase := value }
  | .keywords set => .ok { options with keywords := set }
  | .other name _ =>
      if name == "self" then .error (.givenTwice "FormatOptions.__init__" name)
      else .error (.unknownOption name)

/-- The options with the given settings, and the usual values elsewhere. -/
def ofSettings (settings : List Setting) : Except Fault Options :=
  settings.foldlM assign {}

/-- Sets one option, unless the setting is silent. -/
def override (options : Options) (setting : Setting) : Except Fault Options :=
  if setting.isSilent then .ok options else options.assign setting

/-- The options with every setting applied that is not silent.  One setting of no option spoils
them all. -/
def merge (options : Options) (settings : List Setting) : Except Fault Options :=
  if settings.any (Setting.isNamed "self") then
    .error (.givenTwice "FormatOptions.merged" "self")
  else settings.foldlM override options

/-- The options are the same, counting truth values as numbers. -/
def same (options others : Options) : Bool :=
  Value.same true options.indentSize others.indentSize &&
    Value.same true options.keywordCase others.keywordCase &&
    options.keywords == others.keywords

/-- Sizes have to be below this bound, `2 ^ 63`. -/
def sizeBound : Int := 0x8000000000000000

/-- The length of text that there is taken to be no memory for, `2 ^ 36`. -/
def lengthBound : Int := 0x1000000000

/-- The number of spaces per level.  A size that is not positive counts as zero, and so does the
number that is none.  From which size on there is no memory for the spaces is up to the machine. -/
def indent (options : Options) (memory : Int := lengthBound) : Except Fault Nat :=
  match options.indentSize with
  | .int size =>
      if sizeBound ≤ size then .error .indentBeyondRange
      else if memory ≤ size then .error .indentBeyondMemory
      else .ok size.toNat
  | .bool value => .ok (if value then 1 else 0)
  | .float size =>
      if (Exact.ofInt 0).lt size.exact then .error .indentNotInteger else .ok 0
  | value => .error (.indentNotNumber value.kind)

/-- The indentation of one level. -/
def indentUnit (options : Options) : Except Fault (List Char) :=
  options.indent.map fun size => List.replicate size ' '

/-- The policy that a value names; anything but the names of the two policies that change keywords
keeps them. -/
def casingOf (value : Value) : Casing :=
  if value.isString "upper" then .upper else if value.isString "lower" then .lower else .keep

/-- The style that the options amount to.  The keyword set is asked for before the indentation. -/
def style (options : Options) (memory : Int := lengthBound) : Except Fault Style :=
  match options.keywords with
  | none => .error (.noKeywords .respelling)
  | some keywords =>
      (options.indent memory).map fun indent => ⟨indent, casingOf options.keywordCase, keywords⟩

/-- The formatted query. -/
def format (options : Options) (query : List Char) (memory : Int := lengthBound) :
    Except Fault (List Char) :=
  (options.style memory).map fun style => style.format query

end Options

end SqlTidy
