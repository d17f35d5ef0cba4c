/-
Module: SqlTidy.Proofs.Schemas
Purpose: The rules that a validator goes by, keyword by keyword, and that the standard one keeps to
  them.
Main exports: Value.Showable, Value.display_cases, Value.rat?, Schema.SimpleType,
  Report.Asserts, Validator.Lawful, Validator.standard_lawful
-/
import SqlTidy.Json.Schema
import SqlTidy.Proofs.Distinctness
import SqlTidy.Proofs.Patterns

namespace SqlTidy

/-!
`Validator.Lawful` says what is known of a validator, with one rule for each keyword.  The rules say
which values a keyword objects to, and that an objection is one violation of the whole value; they
leave the wording open.  All messages show the value that they are about, so an objection to a value
that cannot be shown is no violation but a failure of the check.

Whether an array repeats an item is left open too, unless it is an array of strings: what counts as
the same is settled for strings alone.
-/

/-! ### Values that can be shown -/

namespace Json.Value

/-- The integer occurs in the value, at any depth. -/
inductive HasInteger (n : Int) : Value → Prop
  | int : HasInteger n (.int n)
  | item {items : List Value} {item : Value} (hmem : item ∈ items) (h : HasInteger n item) :
      HasInteger n (.array items)
  | field {fields : List (CodePoints × Value)} {name : CodePoints} {value : Value}
      (hmem : (name, value) ∈ fields) (h : HasInteger n value) : HasInteger n (.object fields)

/-- No integer in the value has more digits than can be shown. -/
def Showable (value : Value) : Prop :=
  ∀ n, HasInteger n value → n.natAbs < Nat.pow 10 integerDigitLimit

theorem showable_int_iff (n : Int) :
    Showable (.int n) ↔ n.natAbs < Nat.pow 10 integerDigitLimit := by
  constructor
  · intro h
    exact h n .int
  · rintro h _ ⟨⟩
    exact h

theorem showable_array_iff (items : List Value) :
    Showable (.array items) ↔ ∀ item ∈ items, Showable item := by
  constructor
  · intro h item hmem n hn
    exact h n (.item hmem hn)
  · rintro h n (_ | ⟨hmem, hn⟩)
    exact h _ hmem n hn

theorem showable_object_iff (fields : List (CodePoints × Value)) :
    Showable (.object fields) ↔ ∀ field ∈ fields, Showable field.2 := by
  constructor
  · intro h field hmem n hn
    exact h n (.field hmem hn)
  · rintro h n (_ | _ | ⟨hmem, hn⟩)
    exact h _ hmem n hn

theorem showable_null : Showable .null := by
  rintro n ⟨⟩

theorem showable_bool (value : Bool) : Showable (.bool value) := by
  rintro n ⟨⟩

theorem showable_float (value : Binary64) : Showable (.float value) := by
  rintro n ⟨⟩

theorem showable_string (text : CodePoints) : Showable (.string text) := by
  rintro n ⟨⟩

mutual

theorem display_cases : ∀ value : Value,
    (Showable value ∧ ∃ shown, value.display = .ok shown) ∨
      (¬ Showable value ∧ value.display = .error .longInteger)
  | .int n => by
      rw [showable_int_iff, display]
      generalize Nat.pow 10 integerDigitLimit = bound
      by_cases hn : n.natAbs < bound
      · exact Or.inl ⟨hn, _, if_pos hn⟩
      · exact Or.inr ⟨hn, if_neg hn⟩
  | .array items => by
      rw [showable_array_iff, display]
      rcases displayItems_cases items with ⟨h, shown, hshown⟩ | ⟨h, herror⟩
      · exact Or.inl ⟨h, _, by rw [hshown]; rfl⟩
      · exact Or.inr ⟨h, by rw [herror]; rfl⟩
  | .object fields => by
      rw [showable_object_iff, display]
      rcases displayFields_cases fields with ⟨h, shown, hshown⟩ | ⟨h, herror⟩
      · exact Or.inl ⟨h, _, by rw [hshown]; rfl⟩
      · exact Or.inr ⟨h, by rw [herror]; rfl⟩
  | .null => Or.inl ⟨showable_null, _, rfl⟩
  | .bool value => Or.inl ⟨showable_bool value, _, rfl⟩
  | .float value => Or.inl ⟨showable_float value, _, rfl⟩
  | .string text => Or.inl ⟨showable_string text, _, rfl⟩

theorem displayItems_cases : ∀ items : List Value,
    ((∀ item ∈ items, Showable item) ∧ ∃ shown, displayItems items = .ok shown) ∨
      ((¬ ∀ item ∈ items, Showable item) ∧ displayItems items = .error .longInteger)
  | [] => Or.inl ⟨by simp, _, rfl⟩
  | item :: items => by
      rw [List.forall_mem_cons, displayItems]
      rcases display_cases item with ⟨h, shown, hshown⟩ | ⟨h, herror⟩
      · rcases displayItems_cases items with ⟨h', others, hothers⟩ | ⟨h', herror⟩
        · exact Or.inl ⟨⟨h, h'⟩, _, by rw [hshown, hothers]; rfl⟩
        · exact Or.inr ⟨fun hall => h' hall.2, by rw [hshown, herror]; rfl⟩
      · exact Or.inr ⟨fun hall => h hall.1, by rw [herror]; rfl⟩

theorem displayFields_cases : ∀ fields : List (CodePoints × Value),
    ((∀ field ∈ fields, Showable field.2) ∧ ∃ shown, displayFields fields = .ok shown) ∨
      ((¬ ∀ field ∈ fields, Showable field.2) ∧ displayFields fields = .error .longInteger)
  | [] => Or.inl ⟨by simp, _, rfl⟩
  | (name, value) :: fields => by
      rw [List.forall_mem_cons, displayFields]
      rcases display_cases value with ⟨h, shown, hshown⟩ | ⟨h, herror⟩
      · rcases displayFields_cases fields with ⟨h', others, hothers⟩ | ⟨h', herror⟩
        · exact Or.inl ⟨⟨h, h'⟩, _, by rw [hshown, hothers]; rfl⟩
        · exact Or.inr ⟨fun hall => h' hall.2, by rw [hshown, herror]; rfl⟩
      · exact Or.inr ⟨fun hall => h hall.1, by rw [herror]; rfl⟩

end

theorem Showable.exists_display {value : Value} (h : Showable value) :
    ∃ shown, value.display = .ok shown :=
  (display_cases value).elim And.right fun hnot => absurd h hnot.1

theorem display_of_not_showable {value : Value} (h : ¬ Showable value) :
    value.display = .error .longInteger :=
  (display_cases value).elim (fun hshown => absurd hshown.1 h) And.right

end Json.Value

/-! ### Numbers -/

/-- The value of a finite double. -/
def Binary64.rat? : Binary64 → Option ℚ
  | .finite negative mantissa exponent _ =>
      some (((if negative then -(mantissa : Int) else mantissa : Int) : ℚ) * 2 ^ exponent)
  | .nan => none
  | .infinity _ => none

/-- The number that a value is; a truth value is none. -/
def Json.Value.rat? : Json.Value → Option ℚ
  | .int value => some value
  | .float value => value.rat?
  | .null | .bool _ | .string _ | .array _ | .object _ => none

theorem Exact.dyadic_lt_ofInt_iff (mantissa exponent bound : Int) :
    (dyadic mantissa exponent).lt (ofInt bound) = true ↔
      (mantissa : ℚ) * 2 ^ exponent < bound := by
  have halign : (dyadic mantissa exponent).lt (ofInt bound) = true ↔
      (align mantissa exponent bound 0).1 < (align mantissa exponent bound 0).2 := by
    rw [ofInt, lt]
    exact decide_eq_true_iff
  rw [halign, align]
  rcases Int.natAbs_eq exponent with he | he
  · generalize exponent.natAbs = k at he
    subst he
    have hleast : min (k : Int) 0 = 0 := by omega
    rw [hleast, sub_zero, sub_zero, Int.toNat_natCast, Int.toNat_zero, zpow_natCast]
    show mantissa * 2 ^ k < bound * 2 ^ 0 ↔ _
    rw [pow_zero, mul_one]
    exact_mod_cast Iff.rfl
  · generalize exponent.natAbs = k at he
    subst he
    have hleast : min (-(k : Int)) 0 = -k := by omega
    rw [hleast, sub_self, zero_sub, neg_neg, Int.toNat_natCast, Int.toNat_zero, zpow_neg,
      zpow_natCast, ← div_eq_mul_inv, div_lt_iff₀ (by positivity)]
    show mantissa * 2 ^ 0 < bound * 2 ^ k ↔ _
    rw [pow_zero, mul_one]
    exact_mod_cast Iff.rfl

/-- When `z * 2 ^ e` is an integer. -/
theorem exists_intCast_eq_mul_zpow (z e : Int) :
    (∃ n : Int, (z : ℚ) * 2 ^ e = n) ↔ 0 ≤ e ∨ (2 : Int) ^ e.natAbs ∣ z := by
  rcases Int.natAbs_eq e with he | he
  · generalize e.natAbs = k at he
    subst he
    refine iff_of_true ⟨z * 2 ^ k, ?_⟩ (Or.inl (Int.natCast_nonneg k))
    rw [zpow_natCast]
    exact_mod_cast rfl
  · generalize e.natAbs = k at he ⊢
    subst he
    have hcast : ∀ n : Int, (z : ℚ) * 2 ^ (-(k : Int)) = n ↔ z = n * 2 ^ k := by
      intro n
      rw [zpow_neg, zpow_natCast, ← div_eq_mul_inv, div_eq_iff (by positivity)]
      exact_mod_cast Iff.rfl
    simp only [hcast]
    constructor
    · rintro ⟨n, rfl⟩
      exact Or.inr (dvd_mul_left _ _)
    · rintro (hk | ⟨n, rfl⟩)
      · obtain rfl : k = 0 := by omega
        exact ⟨z, by simp⟩
      · exact ⟨n, mul_comm _ _⟩

theorem Binary64.isIntegral_finite_iff (negative : Bool) (mantissa : Nat) (exponent : Int)
    (canonical : IsCanonical mantissa exponent) :
    (finite negative mantissa exponent canonical).isIntegral = true ↔
      ∃ n : Int, (finite negative mantissa exponent canonical).rat? = some (n : ℚ) := by
  have hsize : (if negative then -(mantissa : Int) else mantissa).natAbs = mantissa := by
    cases negative <;> simp
  have hdvd : (2 : Int) ^ exponent.natAbs ∣ (if negative then -(mantissa : Int) else mantissa) ↔
      mantissa % Nat.pow 2 exponent.natAbs = 0 := by
    rw [← Int.dvd_natAbs, hsize]
    exact_mod_cast Nat.dvd_iff_mod_eq_zero
  simp only [rat?, Option.some.injEq, exists_intCast_eq_mul_zpow, hdvd, isIntegral,
    Bool.or_eq_true, decide_eq_true_eq, beq_iff_eq]

namespace Json

/-! ### The rules -/

namespace Schema

/-- The names of types that are told apart here. -/
inductive SimpleType where
  | object
  | array
  | string
  | integer

namespace SimpleType

/-- The name of a type. -/
def name : SimpleType → String
  | object => "object"
  | array => "array"
  | string => "string"
  | integer => "integer"

/-- The value is of the type.  An integer is any number without a fractional part. -/
def Has : SimpleType → Value → Prop
  | object, value => ∃ fields, value = .object fields
  | array, value => ∃ items, value = .array items
  | string, value => ∃ text, value = .string text
  | integer, value => ∃ n : Int, value.rat? = some (n : ℚ)

end SimpleType

/-- The value is a number below an integer. -/
def Below (bound : Int) (value : Value) : Prop :=
  (∃ q : ℚ, value.rat? = some q ∧ q < bound) ∨ value = .float (.infinity true)

end Schema

namespace Report

/-- The report is that of a keyword which asks something of a value itself. -/
structure Asserts (report : Report) (value : Value) (holds : Prop) : Prop where
  silent : holds → report = .ok []
  violated : ¬ holds → value.Showable → ∃ message, report = .ok [⟨[], message⟩]
  failed : ¬ holds → ¬ value.Showable → report = .error .longInteger

end Report

namespace Validator

/-- What is found in a field by the schema for its name; a field that is not there is not looked
at. -/
def checkField (validator : Validator) (fields : List (CodePoints × Value)) (name : String)
    (schema : Value) : Report :=
  ((Value.lookup fields name).map fun value =>
    (validator.check schema value).within name).getD (.ok [])

/-- The rules for the keywords of schemas. -/
structure Lawful (validator : Validator) : Prop where
  /-- A schema finds what its keywords find, in their order. -/
  check : ∀ (keywords : List (String × Value)) (value : Value),
    validator.check (.record keywords) value =
      .collect (keywords.map fun keyword =>
        validator.keyword keyword.1 keyword.2 (.record keywords) value)
  /-- Four keywords only describe. -/
  annotation : ∀ name ∈ ["$schema", "$id", "title", "default"], ∀ argument schema value,
    validator.keyword name argument schema value = .ok []
  /-- The value has a type. -/
  type : ∀ (type : Schema.SimpleType) (schema value : Value),
    (validator.keyword "type" (.ofString type.name) schema value).Asserts value (type.Has value)
  /-- The value is one of some strings. -/
  enum : ∀ (texts : List String) (schema value : Value),
    (validator.keyword "enum" (.array (texts.map .ofString)) schema value).Asserts value
      (∃ text ∈ texts, value = .ofString text)
  /-- A number is not too small. -/
  minimum : ∀ (bound : Int) (schema value : Value), Value.Showable (.int bound) →
    (validator.keyword "minimum" (.int bound) schema value).Asserts value
      (¬ Schema.Below bound value)
  /-- An array is not too short. -/
  minItems : ∀ (bound : Nat) (schema value : Value),
    (validator.keyword "minItems" (.int bound) schema value).Asserts value
      (∀ items, value = .array items → bound ≤ items.length)
  /-- An array of strings does not repeat one. -/
  uniqueItems : ∀ schema value : Value, ∃ distinct : Prop,
    (validator.keyword "uniqueItems" (.bool true) schema value).Asserts value distinct ∧
      ((∀ items, value ≠ .array items) → distinct) ∧
      ∀ texts : List CodePoints, value = .array (texts.map .string) → (distinct ↔ texts.Nodup)
  /-- Some part of a string fits a pattern. -/
  pattern : ∀ (written : List Char) (pattern : Text.Pattern),
    Text.Pattern.parse? written = some pattern → ∀ schema value : Value,
    (validator.keyword "pattern" (.ofChars written) schema value).Asserts value
      (∀ text, value = .string text → pattern.Found (text.map Fin.val))
  /-- An object has no fields but those that there are properties for. -/
  additionalProperties : ∀ (keywords properties : List (String × Value))
    (fields : List (CodePoints × Value)),
    keywords.lookup "properties" = some (.record properties) →
    keywords.lookup "patternProperties" = none →
    ((∀ field ∈ fields, ∃ property ∈ properties, field.1 = .ofString property.1) →
      validator.keyword "additionalProperties" (.bool false) (.record keywords) (.object fields) =
        .ok []) ∧
    ((¬ ∀ field ∈ fields, ∃ property ∈ properties, field.1 = .ofString property.1) →
      ∃ message, validator.keyword "additionalProperties" (.bool false) (.record keywords)
        (.object fields) = .ok [⟨[], message⟩])
  /-- The fields of an object are checked each by the schema for its name. -/
  properties : ∀ (properties : List (String × Value)) (schema : Value)
    (fields : List (CodePoints × Value)),
    validator.keyword "properties" (.record properties) schema (.object fields) =
      .collect (properties.map fun property =>
        validator.checkField fields property.1 property.2)
  /-- The items of an array are all checked by one schema. -/
  items : ∀ (schema keywords : List (String × Value)) (items : List Value),
    keywords.lookup "prefixItems" = none →
    validator.keyword "items" (.record schema) (.record keywords) (.array items) =
      .collect (items.mapIdx fun index item =>
        (validator.check (.record schema) item).within (toString index))
  /-- Where there are no fields or items, nothing is found in them. -/
  apart : ∀ (argument schema value : Value),
    ((∀ fields, value ≠ .object fields) →
      validator.keyword "additionalProperties" argument schema value = .ok [] ∧
        validator.keyword "properties" argument schema value = .ok []) ∧
    ((∀ items, value ≠ .array items) → validator.keyword "items" argument schema value = .ok [])

end Validator

/-! ### Names -/

theorem CodePoints.toChars_ofChars (text : List Char) : (ofChars text).toChars = text := by
  have hchar : ∀ c : Char, (CodePoint.ofChar c).toChar? = some c := by
    intro c
    have hvalid : c.toNat < 0xD800 ∨ 0xDFFF < c.toNat ∧ c.toNat < 0x110000 := c.valid
    have hrange : (decide (c.toNat < 0xD800) || decide (0xDFFF < c.toNat)) = true := by
      simpa using hvalid.imp_right And.left
    rw [CodePoint.toChar?, CodePoint.ofChar, if_pos hrange, Char.ofNat_toNat]
  simp [toChars, ofChars, Function.comp_def, hchar]

theorem CodePoints.ofList_toChars_ofString (name : String) :
    String.ofList (ofString name).toChars = name := by
  rw [ofString, toChars_ofChars, String.ofList_toList]

theorem CodePoints.ofString_injective : Function.Injective ofString := by
  intro name other h
  rw [← ofList_toChars_ofString name, h, ofList_toChars_ofString]

theorem Value.lookup_record (fields : List (String × Value)) (name : String) :
    lookup (fields.map fun field => (.ofString field.1, field.2)) name = fields.lookup name := by
  induction fields with
  | nil => rfl
  | cons field fields ih =>
      have hname : (CodePoints.ofString name == .ofString field.1) = (name == field.1) := by
        rw [Bool.eq_iff_iff, beq_iff_eq, beq_iff_eq, CodePoints.ofString_injective.eq_iff]
      rw [lookup] at ih ⊢
      rw [List.map_cons, List.lookup_cons, List.lookup_cons, hname, ih]

/-! ### The standard validator -/

namespace Report

theorem Asserts.congr {report : Report} {value : Value} {holds other : Prop}
    (h : report.Asserts value holds) (hiff : holds ↔ other) : report.Asserts value other :=
  propext hiff ▸ h

/-- A check that shows the value, and only then complains. -/
theorem asserts_ite {complain : String → Report}
    (hcomplain : ∀ shown, ∃ message, complain shown = .ok [⟨[], message⟩]) (holds : Bool)
    (value : Value) :
    Asserts (if holds then .ok [] else value.display >>= complain) value (holds = true) := by
  cases holds with
  | true => exact ⟨fun _ => rfl, fun h => absurd rfl h, fun h => absurd rfl h⟩
  | false =>
      refine ⟨fun h => absurd h (by simp), fun _ hshown => ?_, fun _ hshown => ?_⟩
      · obtain ⟨shown, hdisplay⟩ := hshown.exists_display
        obtain ⟨message, hmessage⟩ := hcomplain shown
        exact ⟨message, by rw [hdisplay]; exact hmessage⟩
      · rw [Value.display_of_not_showable hshown]
        rfl

theorem asserts_require (holds : Bool) (value : Value) (reason : String) :
    (require holds value reason).Asserts value (holds = true) :=
  asserts_ite (fun _ => ⟨_, rfl⟩) holds value

theorem asserts_requireBy {argument : Value} (hargument : argument.Showable) (holds : Bool)
    (value : Value) (reason : String) :
    (requireBy argument holds value reason).Asserts value (holds = true) := by
  obtain ⟨shownArgument, hdisplay⟩ := hargument.exists_display
  refine asserts_ite (fun shown => ⟨shown ++ reason ++ shownArgument, ?_⟩) holds value
  rw [hdisplay]
  rfl

end Report

namespace Schema

theorem isString_iff (value : Value) (text : String) :
    value.isString text = true ↔ value = .ofString text := by
  cases value <;> simp [Value.isString, Value.ofString]

theorem isString_ofString (text other : String) :
    (Value.ofString text).isString other = (text == other) := by
  rw [Bool.eq_iff_iff, isString_iff, beq_iff_eq, Value.ofString, Value.ofString,
    Value.string.injEq, CodePoints.ofString_injective.eq_iff]

theorem isIntegral_iff (value : Value) :
    isIntegral value = true ↔ ∃ n : Int, value.rat? = some (n : ℚ) := by
  cases value with
  | int n => exact iff_of_true rfl ⟨n, rfl⟩
  | float number =>
      cases number with
      | finite negative mantissa exponent canonical =>
          exact Binary64.isIntegral_finite_iff negative mantissa exponent canonical
      | nan | infinity => simp [isIntegral, Binary64.isIntegral, Value.rat?, Binary64.rat?]
  | null | bool | string | array | object => simp [isIntegral, Value.rat?]

theorem isOfType_iff (type : SimpleType) (value : Value) :
    isOfType (.ofString type.name) value = true ↔ type.Has value := by
  cases type with
  | integer =>
      rw [SimpleType.Has, ← isIntegral_iff]
      simp [isOfType, isString_ofString, SimpleType.name]
  | object | array | string =>
      cases value <;>
        simp [isOfType, isString_ofString, SimpleType.name, SimpleType.Has, Value.kind]

theorem isAmong_iff (texts : List String) (value : Value) :
    isAmong (.array (texts.map .ofString)) value = true ↔
      ∃ text ∈ texts, value = .ofString text := by
  have hsame : ∀ text : String, Value.same false (.ofString text) value = true ↔
      value = .ofString text := by
    intro text
    cases value with
    | string other =>
        rw [Value.ofString, Value.same_string, beq_iff_eq, Value.string.injEq]
        exact eq_comm
    | null | bool | int | float | array | object => simp [Value.ofString, Value.same]
  simp [isAmong, hsame]

theorem isBelow_iff (bound : Int) (value : Value) :
    isBelow (.int bound) value = true ↔ Below bound value := by
  cases value with
  | int n =>
      have hexact := Exact.dyadic_lt_ofInt_iff n 0 bound
      rw [zpow_zero, mul_one] at hexact
      rw [← Exact.ofInt] at hexact
      simpa [isBelow, Below, Value.kind, Value.number?, Value.rat?] using hexact
  | float number =>
      cases number with
      | finite negative mantissa exponent canonical =>
          have hexact := Exact.dyadic_lt_ofInt_iff
            (if negative then -(mantissa : Int) else mantissa) exponent bound
          simpa [isBelow, Below, Value.kind, Value.number?, Value.rat?, Binary64.rat?,
            Binary64.exact] using hexact
      | nan =>
          simp [isBelow, Below, Value.kind, Value.number?, Value.rat?, Binary64.rat?,
            Binary64.exact, Exact.lt]
      | infinity negative =>
          cases negative <;>
            simp [isBelow, Below, Value.kind, Value.number?, Value.rat?, Binary64.rat?,
              Binary64.exact, Exact.lt, Exact.ofInt]
  | null | bool | string | array | object =>
      simp [isBelow, Below, Value.kind, Value.number?, Value.rat?]

theorem isShorter_iff (bound : Nat) (value : Value) :
    isShorter (.int bound) value = false ↔
      ∀ items, value = .array items → bound ≤ items.length := by
  cases value with
  | array items => simp [isShorter]
  | null | bool | int | float | string | object => simp [isShorter]

theorem misses_iff {written : List Char} {pattern : Text.Pattern}
    (hparse : Text.Pattern.parse? written = some pattern) (value : Value) :
    misses (.ofChars written) value = false ↔
      ∀ text, value = .string text → pattern.Found (text.map Fin.val) := by
  cases value with
  | string text =>
      simp [misses, Value.ofChars, CodePoints.toChars_ofChars, hparse, Text.Pattern.isFound_iff]
  | null | bool | int | float | array | object => simp [misses, Value.ofChars]

theorem mem_unknownNames_iff {keywords properties : List (String × Value)}
    (hproperties : keywords.lookup "properties" = some (.record properties))
    {fields : List (CodePoints × Value)} {name : CodePoints} :
    name ∈ unknownNames (.record keywords) (.object fields) ↔
      (∃ value, (name, value) ∈ fields) ∧ ∀ property ∈ properties, name ≠ .ofString property.1 := by
  have hnames : propertyNames (.record keywords) =
      properties.map fun property => CodePoints.ofString property.1 := by
    rw [Value.record, propertyNames, Value.lookup_record, hproperties]
    simp [Value.record]
  have hunknown : (!(properties.map fun property =>
      CodePoints.ofString property.1).contains name) = true ↔
        ∀ property ∈ properties, name ≠ .ofString property.1 := by
    rw [Bool.not_eq_true', ← Bool.not_eq_true, List.contains_iff_mem, List.mem_map]
    grind
  rw [unknownNames, hnames, List.mem_mergeSort, List.mem_filter, hunknown, List.mem_map]
  simp

/-! ### What schemas find -/

theorem checkKeywords_record (schema : Value) (keywords : List (String × Value)) (value : Value) :
    checkKeywords schema (keywords.map fun keyword => (.ofString keyword.1, keyword.2)) value =
      .collect (keywords.map fun keyword => checkKeyword keyword.1 keyword.2 schema value) := by
  induction keywords with
  | nil => rw [List.map_nil, checkKeywords]; rfl
  | cons keyword keywords ih =>
      rw [List.map_cons, checkKeywords, ih, CodePoints.ofList_toChars_ofString]
      rfl

theorem checkProperties_record (properties : List (String × Value))
    (fields : List (CodePoints × Value)) :
    checkProperties (properties.map fun property => (.ofString property.1, property.2)) fields =
      .collect (properties.map fun property =>
        Validator.standard.checkField fields property.1 property.2) := by
  induction properties with
  | nil =>
      rw [List.map_nil, checkProperties]
      rfl
  | cons property properties ih =>
      rw [List.map_cons, checkProperties, ih, CodePoints.ofList_toChars_ofString, List.map_cons,
        Report.collect, Validator.checkField, Value.lookup]
      cases fields.lookup (.ofString property.1) with
      | none => rfl
      | some value => rfl

end Schema

namespace Validator

open Schema

theorem standard_keyword {name : String} (hproperties : name ≠ "properties")
    (hitems : name ≠ "items") (argument schema value : Value) :
    standard.keyword name argument schema value = assertion name argument schema value := by
  have hproperties' : (name == "properties") = false := beq_false_of_ne hproperties
  have hitems' : (name == "items") = false := beq_false_of_ne hitems
  cases argument <;> simp [standard, checkKeyword, hproperties', hitems']

/-- The standard validator keeps to the rules. -/
theorem standard_lawful : standard.Lawful where
  check := fun keywords value => checkKeywords_record (.record keywords) keywords value
  annotation := by
    intro name hname argument schema value
    simp only [List.mem_cons, List.not_mem_nil, or_false] at hname
    rcases hname with rfl | rfl | rfl | rfl <;>
      rw [standard_keyword (by decide) (by decide)] <;> rfl
  type := by
    intro type schema value
    rw [standard_keyword (by decide) (by decide)]
    exact (Report.asserts_requireBy (Value.showable_string _) _ value _).congr
      (isOfType_iff type value)
  enum := by
    intro texts schema value
    have hshown : Value.Showable (.array (texts.map .ofString)) := by
      rw [Value.showable_array_iff]
      intro item hitem
      obtain ⟨text, _, rfl⟩ := List.mem_map.1 hitem
      exact Value.showable_string _
    rw [standard_keyword (by decide) (by decide)]
    exact (Report.asserts_requireBy hshown _ value _).congr (isAmong_iff texts value)
  minimum := by
    intro bound schema value hbound
    rw [standard_keyword (by decide) (by decide)]
    refine (Report.asserts_requireBy hbound _ value _).congr ?_
    rw [Bool.not_eq_true', ← Bool.not_eq_true, isBelow_iff]
  minItems := by
    intro bound schema value
    rw [standard_keyword (by decide) (by decide)]
    refine (Report.asserts_require _ value _).congr ?_
    rw [Bool.not_eq_true', isShorter_iff]
  uniqueItems := by
    intro schema value
    rw [standard_keyword (by decide) (by decide)]
    refine ⟨_, Report.asserts_require _ value _, ?_, ?_⟩
    · intro hnone
      cases value with
      | array items => exact absurd rfl (hnone items)
      | null | bool | int | float | string | object => rfl
    · rintro texts rfl
      rw [← Value.allDistinct_strings]
      simp [repeatsItem]
  pattern := by
    intro written pattern hparse schema value
    have hshown : Value.Showable (.ofChars written) := Value.showable_string _
    rw [standard_keyword (by decide) (by decide)]
    refine (Report.asserts_requireBy hshown _ value _).congr ?_
    rw [Bool.not_eq_true', misses_iff hparse]
  additionalProperties := by
    intro keywords properties fields hproperties _
    have hknown : unknownNames (.record keywords) (.object fields) = [] ↔
        ∀ field ∈ fields, ∃ property ∈ properties, field.1 = .ofString property.1 := by
      rw [List.eq_nil_iff_forall_not_mem]
      simp only [mem_unknownNames_iff hproperties]
      grind
    rw [standard_keyword (by decide) (by decide), ← hknown]
    have hassertion : assertion "additionalProperties" (.bool false) (.record keywords)
        (.object fields) =
          refuseNames (.bool false) (unknownNames (.record keywords) (.object fields)) := rfl
    rw [hassertion]
    cases unknownNames (.record keywords) (.object fields) with
    | nil => exact ⟨fun _ => rfl, fun h => absurd rfl h⟩
    | cons name names => exact ⟨fun h => absurd h (by simp), fun _ => ⟨_, rfl⟩⟩
  properties := by
    intro properties schema fields
    exact checkProperties_record properties fields
  items := by
    intro schema keywords items _
    rfl
  apart := by
    intro argument schema value
    refine ⟨fun hobject => ⟨?_, ?_⟩, fun harray => ?_⟩
    · have hunknown : unknownNames schema value = [] := by
        cases value with
        | object fields => exact absurd rfl (hobject fields)
        | null | bool | int | float | string | array => rfl
      rw [standard_keyword (by decide) (by decide)]
      show refuseNames argument (unknownNames schema value) = _
      rw [hunknown, refuseNames]
      simp
    · cases value with
      | object fields => exact absurd rfl (hobject fields)
      | null | bool | int | float | string | array => cases argument <;> rfl
    · cases value with
      | array items => exact absurd rfl (harray items)
      | null | bool | int | float | string | object => cases argument <;> rfl

end Validator

end Json

end SqlTidy
