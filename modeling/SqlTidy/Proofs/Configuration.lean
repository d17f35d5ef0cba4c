/-
Module: SqlTidy.Proofs.Configuration
Purpose: The options that a configuration document without violations makes, and when a query can be
  formatted with them.
Main exports: Config.options_of_violations_eq_nil, Config.of_options_ok, Config.cases_of_isCount,
  Options.format_eq_map, Options.indent_of_finite, format_of_accepted_config
-/
import SqlTidy.Config
import SqlTidy.Proofs.Formatting
import SqlTidy.Proofs.Validation

namespace SqlTidy

open Json (Value CodePoints)

/-!
A document is checked in one place, its values are merged into the options in another, and the
indentation is made of them in a third.  The check and the indentation do not agree on what an
integer is: a double that has the value of an integer passes the check, and no indentation can be
made of it unless it is zero.
-/

namespace Config

/-! ### Documents without violations -/

section Accepted

variable {fields : List (CodePoints × Value)} (h : violations (.object fields) = .ok [])
  {value : Value}
include h

theorem isCount_of_violations_eq_nil (hfield : Value.lookup fields "indentSize" = some value) :
    IsCount value := by
  by_contra hvalue
  exact (violations_eq_nil_iff fields).1 h _ (.indentSize hfield hvalue)

theorem isCasing_of_violations_eq_nil (hfield : Value.lookup fields "keywordCase" = some value) :
    IsCasing value := by
  by_contra hvalue
  exact (violations_eq_nil_iff fields).1 h _ (.keywordCase hfield hvalue)

end Accepted

theorem IsCount.kind_ne_null {value : Value} (h : IsCount value) : value.kind ≠ .null := by
  obtain ⟨n, hn⟩ := h
  cases value <;> simp_all [Value.rat?, Value.kind]

theorem IsCasing.kind_ne_null {value : Value} (h : IsCasing value) : value.kind ≠ .null := by
  obtain ⟨name, _, rfl⟩ := h
  simp [Value.ofString, Value.kind]

end Config

/-! ### Merging -/

namespace Options

theorem override_indentSize {found : Option Value} (h : ∀ value ∈ found, value.kind ≠ .null)
    (options : Options) :
    options.override (.indentSize (found.getD .null)) =
      .ok { options with indentSize := found.getD options.indentSize } := by
  cases found with
  | none => rfl
  | some value => simp [override, Setting.isSilent, h value, assign]

theorem override_keywordCase {found : Option Value} (h : ∀ value ∈ found, value.kind ≠ .null)
    (options : Options) :
    options.override (.keywordCase (found.getD .null)) =
      .ok { options with keywordCase := found.getD options.keywordCase } := by
  cases found with
  | none => rfl
  | some value => simp [override, Setting.isSilent, h value, assign]

theorem override_keywords (found : Option KeywordSet) (options : Options) :
    options.override (.keywords found) =
      .ok { options with keywords := found.or options.keywords } := by
  cases found with
  | none => rfl
  | some set => rfl

end Options

namespace Config

/-- A document without violations gives each option that it has a field for, and leaves the others
to the base. -/
theorem options_object {fields : List (CodePoints × Value)}
    (h : violations (.object fields) = .ok []) (base : Options) :
    options (.object fields) base =
      .ok { indentSize := (Value.lookup fields "indentSize").getD base.indentSize
            keywordCase := (Value.lookup fields "keywordCase").getD base.keywordCase
            keywords := ((Value.lookup fields "keywords").map keywordsOf).or base.keywords } := by
  have hindent : ∀ value ∈ Value.lookup fields "indentSize", value.kind ≠ .null :=
    fun value hvalue => (isCount_of_violations_eq_nil h hvalue).kind_ne_null
  have hcase : ∀ value ∈ Value.lookup fields "keywordCase", value.kind ≠ .null :=
    fun value hvalue => (isCasing_of_violations_eq_nil h hvalue).kind_ne_null
  have hmerge : options (.object fields) base = base.merge (settings (.object fields)) := by
    simp only [options, h]
  have hnamed : (settings (.object fields)).any (Setting.isNamed "self") = false := rfl
  rw [hmerge, Options.merge, hnamed, settings]
  simp only [Bool.false_eq_true, if_false, List.foldlM_cons, List.foldlM_nil,
    Options.override_indentSize hindent, Options.override_keywordCase hcase,
    Options.override_keywords]
  rfl

/-- Options come from documents without violations only. -/
theorem violations_of_options_ok {document : Value} {base result : Options}
    (h : options document base = .ok result) : violations document = .ok [] := by
  unfold options at h
  split at h
  · simp at h
  · assumption
  · simp at h

/-- The value that a document gives for a field. -/
def field? (document : Value) (name : String) : Option Value :=
  match document with
  | .object fields => Value.lookup fields name
  | _ => none

/-- The options of a document without violations, field by field. -/
theorem options_of_violations_eq_nil {document : Value} (h : violations document = .ok [])
    (base : Options) :
    options document base =
      .ok ⟨(field? document "indentSize").getD base.indentSize,
        (field? document "keywordCase").getD base.keywordCase,
        ((field? document "keywords").map keywordsOf).or base.keywords⟩ := by
  obtain ⟨fields, rfl⟩ := exists_object_of_violations_eq_nil h
  exact options_object h base

/-- What a document must be for options to come from it on top of the usual ones, and what these are
then. -/
theorem of_options_ok {document : Value} {result : Options}
    (h : options document {} = .ok result) :
    (∃ set, result.keywords = some set) ∧
      result.indentSize = (field? document "indentSize").getD (.int 2) ∧
      ∀ value, field? document "indentSize" = some value → IsCount value := by
  have hviolations := violations_of_options_ok h
  obtain ⟨fields, rfl⟩ := exists_object_of_violations_eq_nil hviolations
  rw [options_object hviolations, Except.ok.injEq] at h
  subst h
  refine ⟨?_, rfl, fun value hvalue => isCount_of_violations_eq_nil hviolations hvalue⟩
  cases Value.lookup fields "keywords" with
  | none => exact ⟨.standard, rfl⟩
  | some value => exact ⟨keywordsOf value, rfl⟩

/-- A value that serves as a count is an integer or a finite double. -/
theorem cases_of_isCount {value : Value} (h : IsCount value) :
    (∃ size : Int, 0 ≤ size ∧ value = .int size) ∨
      ∃ negative mantissa exponent canonical,
        value = .float (.finite negative mantissa exponent canonical) ∧
        (Binary64.finite negative mantissa exponent canonical).isIntegral = true ∧
        (mantissa ≠ 0 → negative = false) := by
  obtain ⟨n, hn⟩ := h
  cases value with
  | int size =>
      rw [Value.rat?, Option.some.injEq] at hn
      have hsize : size = n := by exact_mod_cast hn
      exact Or.inl ⟨size, by omega, rfl⟩
  | float size =>
      cases size with
      | nan | infinity => simp [Value.rat?, Binary64.rat?] at hn
      | finite negative mantissa exponent canonical =>
          have hintegral := (Binary64.isIntegral_finite_iff negative mantissa exponent canonical).2
            ⟨n, by simpa [Value.rat?] using hn⟩
          refine Or.inr ⟨negative, mantissa, exponent, canonical, rfl, hintegral, ?_⟩
          intro hmantissa
          cases negative with
          | false => rfl
          | true =>
              have hpositive : (0 : ℚ) < mantissa * 2 ^ exponent := by positivity
              have hvalue : -((mantissa : ℚ) * 2 ^ exponent) = n := by
                simpa [Value.rat?, Binary64.rat?] using hn
              have hnonneg : (0 : ℚ) ≤ n := by positivity
              linarith
  | null | bool | string | array | object => simp [Value.rat?] at hn

end Config

/-! ### Formatting with options -/

theorem Exact.ofInt_zero_lt_dyadic (mantissa exponent : Int) :
    (ofInt 0).lt (.dyadic mantissa exponent) = decide (0 < mantissa) := by
  simp only [ofInt, lt, align, zero_mul, decide_eq_decide]
  exact mul_pos_iff_of_pos_right (Int.pow_pos (by decide))

namespace Options

/-- Formatting with keywords fails only if no indentation can be made of the indent size. -/
theorem format_eq_map {options : Options} {set : KeywordSet}
    (hkeywords : options.keywords = some set) (query : List Char) (memory : Int) :
    options.format query memory =
      (options.indent memory).map fun size =>
        Style.format ⟨size, casingOf options.keywordCase, set⟩ query := by
  rw [format, style, hkeywords]
  cases options.indent memory with
  | ok size => rfl
  | error fault => rfl

theorem indent_of_int {options : Options} {size : Int} (hindent : options.indentSize = .int size)
    (memory : Int) :
    options.indent memory =
      if sizeBound ≤ size then .error .indentBeyondRange
      else if memory ≤ size then .error .indentBeyondMemory
      else .ok size.toNat := by
  rw [indent, hindent]

/-- A finite double serves as an indent size only if it is not above zero. -/
theorem indent_of_finite {options : Options} {negative : Bool} {mantissa : Nat} {exponent : Int}
    {canonical : Binary64.IsCanonical mantissa exponent}
    (hindent : options.indentSize = .float (.finite negative mantissa exponent canonical))
    (hsign : mantissa ≠ 0 → negative = false) (memory : Int) :
    options.indent memory = if mantissa = 0 then .ok 0 else .error .indentNotInteger := by
  rw [indent, hindent]
  simp only [Binary64.exact, Exact.ofInt_zero_lt_dyadic, decide_eq_true_eq]
  by_cases hmantissa : mantissa = 0
  · simp [hmantissa]
  · simp [hmantissa, hsign hmantissa]

end Options

/-- When the options of an accepted document can be used, on a machine with memory for texts below
some length.  A document without an indent size, and one with an integer below that length and in
the range of sizes, can be used for every query.  A double is accepted if it has the value of an
integer, and then it can be used if it is zero; with any other double, and with a greater integer, no
query can be formatted at all. -/
theorem format_of_accepted_config (document : Value) (options : Options)
    (h : Config.options document {} = .ok options) (query : List Char) (memory : Int)
    (hmemory : 2 < memory) :
    ∃ set, options.keywords = some set ∧
      ((Config.field? document "indentSize" = none ∧
          options.format query memory =
            .ok (Style.format ⟨2, Options.casingOf options.keywordCase, set⟩ query)) ∨
        (∃ size : Int, Config.field? document "indentSize" = some (.int size) ∧ 0 ≤ size ∧
          (size < memory → size < Options.sizeBound → options.format query memory =
            .ok (Style.format ⟨size.toNat, Options.casingOf options.keywordCase, set⟩ query)) ∧
          (memory ≤ size → size < Options.sizeBound →
            options.format query memory = .error .indentBeyondMemory) ∧
          (Options.sizeBound ≤ size → options.format query memory = .error .indentBeyondRange)) ∨
        ∃ negative mantissa exponent canonical,
          Config.field? document "indentSize" =
            some (.float (.finite negative mantissa exponent canonical)) ∧
          (Binary64.finite negative mantissa exponent canonical).isIntegral = true ∧
          (mantissa = 0 → options.format query memory =
            .ok (Style.format ⟨0, Options.casingOf options.keywordCase, set⟩ query)) ∧
          (mantissa ≠ 0 → options.format query memory = .error .indentNotInteger)) := by
  obtain ⟨⟨set, hset⟩, hsize, hcount⟩ := Config.of_options_ok h
  have hformat := Options.format_eq_map hset query memory
  refine ⟨set, hset, ?_⟩
  cases hfield : Config.field? document "indentSize" with
  | none =>
      rw [hfield, Option.getD_none] at hsize
      rw [Options.indent_of_int hsize, if_neg (by decide), if_neg hmemory.not_ge] at hformat
      exact Or.inl ⟨rfl, hformat⟩
  | some value =>
      rw [hfield, Option.getD_some] at hsize
      rcases Config.cases_of_isCount (hcount value hfield) with
        ⟨size, hpositive, rfl⟩ | ⟨negative, mantissa, exponent, canonical, rfl, hfinite, hsign⟩
      · rw [Options.indent_of_int hsize] at hformat
        refine Or.inr (Or.inl ⟨size, rfl, hpositive, ?_, ?_, ?_⟩)
        · intro hlength hrange
          rw [hformat, if_neg hrange.not_ge, if_neg hlength.not_ge]
          rfl
        · intro hlength hrange
          rw [hformat, if_neg hrange.not_ge, if_pos hlength]
          rfl
        · intro hrange
          rw [hformat, if_pos hrange]
          rfl
      · rw [Options.indent_of_finite hsize hsign] at hformat
        refine Or.inr (Or.inr ⟨negative, mantissa, exponent, canonical, rfl, hfinite, ?_, ?_⟩)
        · intro hzero
          rw [hformat, if_pos hzero]
          rfl
        · intro hnonzero
          rw [hformat, if_neg hnonzero]
          rfl

/-- A zero with a minus sign and a point, and a keyword that is not a standard one. -/
theorem format_of_accepted_config_minus_zero :
    ∃ options, Config.options (Value.record
        [("indentSize", .float (.finite true 0 Binary64.leastExponent)),
          ("keywords", .array [.ofString "in"])]) {} = .ok options ∧
      ∃ out, options.format "a in (b)".toList = .ok out := by
  have hviolations : Config.violations (Value.record
      [("indentSize", .float (.finite true 0 Binary64.leastExponent)),
        ("keywords", .array [.ofString "in"])]) = .ok [] := by
    decide +kernel
  have haccepted := Config.options_object hviolations {}
  have hfield : Config.field? (Value.record
      [("indentSize", .float (.finite true 0 Binary64.leastExponent)),
        ("keywords", .array [.ofString "in"])]) "indentSize" =
      some (.float (.finite true 0 Binary64.leastExponent)) := rfl
  obtain ⟨_, _, hcases⟩ := format_of_accepted_config _ _ haccepted "a in (b)".toList
    Options.lengthBound (by decide)
  refine ⟨_, haccepted, ?_⟩
  rcases hcases with ⟨hnone, _⟩ | ⟨_, hint, _⟩ | ⟨_, _, _, _, hfloat, _, hzero, _⟩
  · exact absurd (hfield.symm.trans hnone) (by simp)
  · exact absurd (hfield.symm.trans hint) (by simp)
  · have hsame := hfield.symm.trans hfloat
    simp only [Option.some.injEq, Value.float.injEq, Binary64.finite.injEq] at hsame
    exact ⟨_, hzero hsame.2.1.symm⟩

/-- The indent size four, written with a point: the document has no violation, and a query cannot be
formatted with it. -/
theorem accepted_config_refuses_query :
    ∃ options, Config.options (Value.record
        [("indentSize", .float (Binary64.ofDecimal false 40 (-1)))]) {} = .ok options ∧
      options.format "select a".toList = .error .indentNotInteger := by
  have hfour : Binary64.ofDecimal false 40 (-1) = .finite false 0x10000000000000 (-50) := by
    decide +kernel
  have hviolations : Config.violations (Value.record
      [("indentSize", .float (.finite false 0x10000000000000 (-50)))]) = .ok [] := by
    decide +kernel
  rw [hfour]
  refine ⟨_, Config.options_object hviolations {}, ?_⟩
  rw [Options.format_eq_map rfl, Options.indent_of_finite rfl fun _ => rfl]
  rfl

end SqlTidy
