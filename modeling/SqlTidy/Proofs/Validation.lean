/-
Module: SqlTidy.Proofs.Validation
Purpose: The check of a configuration document reports the fields that are at fault, each of them
  and no others, in order, whatever validator it is done with.
Main exports: Config.Offends, Config.CanBeShown, leadingField, Config.Names,
  Config.names_check_object, Config.placeLe_iff, Config.violations_eq_nil_iff,
  Config.violations_report_offending_fields
-/
import SqlTidy.Config.Violation
import SqlTidy.Proofs.Fields
import SqlTidy.Proofs.Reading

namespace SqlTidy

open Text
open Json (Value CodePoints Violation Report Validator)
open Json.Schema (SimpleType)

namespace Config

/-! ### The fields that are at fault -/

/-- The fields that a document may have. -/
def fieldNames : List String :=
  ["indentSize", "keywordCase", "keywords"]

/-- The fields of an object that are at fault; `<root>` stands for the names of the fields. -/
inductive Offends (fields : List (CodePoints × Value)) : String → Prop
  | root {name : CodePoints} {value : Value} (hmem : (name, value) ∈ fields)
      (hname : ∀ known ∈ fieldNames, name ≠ .ofString known) :
      Offends fields "<root>"
  | indentSize {value : Value} (hfield : Value.lookup fields "indentSize" = some value)
      (hvalue : ¬ IsCount value) : Offends fields "indentSize"
  | keywordCase {value : Value} (hfield : Value.lookup fields "keywordCase" = some value)
      (hvalue : ¬ IsCasing value) : Offends fields "keywordCase"
  | keywords {value : Value} (hfield : Value.lookup fields "keywords" = some value)
      (hvalue : ¬ IsKeywordList value) : Offends fields "keywords"

theorem offends_iff (fields : List (CodePoints × Value)) (field : String) :
    Offends fields field ↔
      (field = "<root>" ∧ ∃ entry ∈ fields, ∀ name ∈ fieldNames, entry.1 ≠ .ofString name) ∨
      (field = "indentSize" ∧
        ∃ value, Value.lookup fields "indentSize" = some value ∧ ¬ IsCount value) ∨
      (field = "keywordCase" ∧
        ∃ value, Value.lookup fields "keywordCase" = some value ∧ ¬ IsCasing value) ∨
      (field = "keywords" ∧
        ∃ value, Value.lookup fields "keywords" = some value ∧ ¬ IsKeywordList value) := by
  constructor
  · intro h
    cases h with
    | root hmem hname => exact Or.inl ⟨rfl, _, hmem, hname⟩
    | indentSize hfield hvalue => exact Or.inr (Or.inl ⟨rfl, _, hfield, hvalue⟩)
    | keywordCase hfield hvalue => exact Or.inr (Or.inr (Or.inl ⟨rfl, _, hfield, hvalue⟩))
    | keywords hfield hvalue => exact Or.inr (Or.inr (Or.inr ⟨rfl, _, hfield, hvalue⟩))
  · rintro (⟨rfl, _, hmem, hname⟩ | ⟨rfl, value, hfield, hvalue⟩ | ⟨rfl, value, hfield, hvalue⟩ |
      ⟨rfl, value, hfield, hvalue⟩)
    · exact .root hmem hname
    · exact .indentSize hfield hvalue
    · exact .keywordCase hfield hvalue
    · exact .keywords hfield hvalue

/-- Whatever has to be shown in a report on an object can be shown. -/
def CanBeShown (fields : List (CodePoints × Value)) : Prop :=
  ∀ name ∈ fieldNames, Offends fields name →
    ∀ value, Value.lookup fields name = some value → value.Showable

theorem canBeShown_iff (fields : List (CodePoints × Value)) :
    CanBeShown fields ↔
      (∀ value, Value.lookup fields "indentSize" = some value → ¬ IsCount value →
        value.Showable) ∧
      (∀ value, Value.lookup fields "keywordCase" = some value → ¬ IsCasing value →
        value.Showable) ∧
      ∀ value, Value.lookup fields "keywords" = some value → ¬ IsKeywordList value →
        value.Showable := by
  have hpart : ∀ {name : String} {good : Value → Prop},
      (∀ bad, Value.lookup fields name = some bad → ¬ good bad →
        ∀ value, Value.lookup fields name = some value → value.Showable) ↔
      ∀ value, Value.lookup fields name = some value → ¬ good value → value.Showable := by
    intro name good
    cases Value.lookup fields name <;> simp
  simp [CanBeShown, fieldNames, offends_iff, hpart]

end Config

/-! ### The fields that are reported -/

/-- The first name that leads to the fault, or `<root>` if it is a fault of the whole document. -/
def Json.Violation.field (violation : Violation) : String :=
  violation.place.head?.getD "<root>"

namespace Config

/-- The places that a report can name, each with its field. -/
inductive PlaceOf : String → List String → Prop
  | root : PlaceOf "<root>" []
  | field {name : String} (hname : name ∈ fieldNames) : PlaceOf name [name]
  | item (index : Nat) : PlaceOf "keywords" ["keywords", toString index]

theorem PlaceOf.field_eq {name : String} {violation : Violation}
    (h : PlaceOf name violation.place) : violation.field = name := by
  rw [Violation.field]
  generalize violation.place = place at h
  cases h <;> rfl

theorem placeOf_keywords (place : List String) (h : Report.HereOrItem place) :
    PlaceOf "keywords" ("keywords" :: place) := by
  rcases h with rfl | ⟨index, rfl⟩
  · exact .field (by decide)
  · exact .item index

/-- The report names certain fields, each in its place, unless something has to be shown that cannot
be. -/
structure Names (report : Report) (shown : Prop) (named : String → Prop) : Prop where
  listed : shown → ∃ found, report = .ok found ∧
    (∀ field, field ∈ found.map Violation.field ↔ named field) ∧
      ∀ violation ∈ found, PlaceOf violation.field violation.place
  failed : ¬ shown → report = .error .longInteger

namespace Names

variable {report : Report} {shown : Prop} {named : String → Prop}

theorem congr (h : Names report shown named) {shown' : Prop} {named' : String → Prop}
    (hshown : shown ↔ shown') (hnamed : ∀ field, named field ↔ named' field) :
    Names report shown' named' := by
  obtain rfl := propext hshown
  obtain rfl : named = named' := funext fun field => propext (hnamed field)
  exact h

theorem of_silent (h : report = .ok []) (hnamed : ∀ field, ¬ named field) :
    Names report True named where
  listed := fun _ => ⟨[], h, by simpa using hnamed, by simp⟩
  failed := fun hnot => absurd trivial hnot

theorem of_judges {good : Prop} {name : String} (h : report.Judges good shown (PlaceOf name)) :
    Names report (¬ good → shown) fun field => field = name ∧ ¬ good where
  listed := by
    intro hshown
    by_cases hgood : good
    · exact ⟨[], h.silent hgood, by simp [hgood], by simp⟩
    · obtain ⟨found, hreport, hne, hfound⟩ := h.violated hgood (hshown hgood)
      have hfield : ∀ violation ∈ found, violation.field = name :=
        fun violation hmem => (hfound violation hmem).field_eq
      refine ⟨found, hreport, fun field => ?_, fun violation hmem => ?_⟩
      · constructor
        · intro hmem
          obtain ⟨violation, hviolation, rfl⟩ := List.mem_map.1 hmem
          exact ⟨hfield violation hviolation, hgood⟩
        · rintro ⟨rfl, _⟩
          obtain ⟨violation, hviolation⟩ := List.exists_mem_of_ne_nil found hne
          exact List.mem_map.2 ⟨violation, hviolation, hfield violation hviolation⟩
      · rw [hfield violation hmem]
        exact hfound violation hmem
  failed := by
    intro hnot
    rw [Classical.not_imp] at hnot
    exact h.failed hnot.1 hnot.2

theorem cons {reports : List Report} {shown' : Prop} {named' : String → Prop}
    (h : Names report shown named) (h' : Names (.collect reports) shown' named') :
    Names (.collect (report :: reports)) (shown ∧ shown') fun field =>
      named field ∨ named' field where
  listed := by
    rintro ⟨hshown, hshown'⟩
    obtain ⟨found, hreport, hnamed, hplaces⟩ := h.listed hshown
    obtain ⟨others, hreports, hnamed', hplaces'⟩ := h'.listed hshown'
    refine ⟨found ++ others, ?_, fun field => ?_, fun violation hmem => ?_⟩
    · rw [hreport, Report.collect_cons_ok, hreports]
      rfl
    · rw [List.map_append, List.mem_append, hnamed, hnamed']
    · exact (List.mem_append.1 hmem).elim (hplaces violation) (hplaces' violation)
  failed := by
    intro hnot
    by_cases hshown : shown
    · obtain ⟨found, hreport, _⟩ := h.listed hshown
      rw [hreport, Report.collect_cons_ok, h'.failed fun hshown' => hnot ⟨hshown, hshown'⟩]
      rfl
    · rw [h.failed hshown, Report.collect_cons_error]

theorem singleton (h : Names report shown named) : Names (.collect [report]) shown named := by
  rw [Report.collect_cons_silent rfl]
  exact h

theorem sorted (h : Names report shown named) (le : Violation → Violation → Bool) :
    Names (report.map fun found => found.mergeSort le) shown named where
  listed := by
    intro hshown
    obtain ⟨found, hreport, hnamed, hplaces⟩ := h.listed hshown
    refine ⟨found.mergeSort le, by rw [hreport]; rfl, fun field => ?_, fun violation hmem => ?_⟩
    · rw [← hnamed, List.mem_map, List.mem_map]
      simp only [List.mem_mergeSort]
    · exact hplaces violation (List.mem_mergeSort.1 hmem)
  failed := by
    intro hnot
    rw [h.failed hnot]
    rfl

end Names

/-- A field is named if it is there and not good, and then its value has to be shown. -/
theorem names_checkField {validator : Validator} {schema : Value} {good : Value → Prop}
    {places : List String → Prop} {name : String}
    (h : ∀ value, (validator.check schema value).Judges (good value) value.Showable places)
    (hplaces : ∀ place, places place → PlaceOf name (name :: place))
    (fields : List (CodePoints × Value)) :
    Names (validator.checkField fields name schema)
      (∀ value, Value.lookup fields name = some value → ¬ good value → value.Showable)
      fun field =>
        field = name ∧ ∃ value, Value.lookup fields name = some value ∧ ¬ good value := by
  rw [Validator.checkField]
  cases Value.lookup fields name with
  | none => exact (Names.of_silent rfl (by simp)).congr (by simp) fun _ => Iff.rfl
  | some value => exact (Names.of_judges ((h value).within hplaces)).congr (by simp) (by simp)

section Documents

variable {validator : Validator} (hlawful : validator.Lawful)
include hlawful

/-- Apart from what it says about itself, the schema has three keywords. -/
theorem check_schema (document : Value) :
    validator.check schema document =
      .collect
        [validator.keyword "type" (.ofString "object") schema document,
          validator.keyword "additionalProperties" (.bool false) schema document,
          validator.keyword "properties" propertiesSchema schema document] := by
  have hcheck : validator.check schema document = .collect
      [validator.keyword "$schema" (.ofString "https://json-schema.org/draft/2020-12/schema") schema
          document,
        validator.keyword "$id"
          (.ofString "https://sqlfmt.local/schemas/sqlfmt-config.schema.json") schema document,
        validator.keyword "title" (.ofString "sql-fmt configuration") schema document,
        validator.keyword "type" (.ofString "object") schema document,
        validator.keyword "additionalProperties" (.bool false) schema document,
        validator.keyword "properties" propertiesSchema schema document] :=
    hlawful.check _ document
  rw [hcheck, hlawful.annotation "$schema" (by decide), hlawful.annotation "$id" (by decide),
    hlawful.annotation "title" (by decide)]
  simp only [Report.collect_cons_nil]

/-- A document that is no object breaks the rule for its type and no other one. -/
theorem asserts_check_of_not_object {document : Value}
    (hobject : ∀ fields, document ≠ .object fields) :
    (validator.check schema document).Asserts document False := by
  have hapart := (hlawful.apart (.bool false) schema document).1 hobject
  have hapart' := (hlawful.apart propertiesSchema schema document).1 hobject
  have htype : SimpleType.object.Has document ↔ False :=
    iff_false_intro fun ⟨fields, hfields⟩ => hobject fields hfields
  rw [check_schema hlawful, hapart.1, hapart'.2, Report.collect_cons_silent rfl]
  exact (hlawful.type .object schema document).congr htype

theorem names_unknown (fields : List (CodePoints × Value)) :
    Names (validator.keyword "additionalProperties" (.bool false) schema (.object fields)) True
      fun field => field = "<root>" ∧ Offends fields "<root>" := by
  have hknown : (∀ entry ∈ fields, ∃ property ∈ [("indentSize", indentSizeSchema),
      ("keywordCase", keywordCaseSchema), ("keywords", keywordsSchema)],
      entry.1 = CodePoints.ofString property.1) ↔ ¬ Offends fields "<root>" := by
    simp [offends_iff, fieldNames]
    grind
  obtain ⟨hsilent, hviolated⟩ :
      (¬ Offends fields "<root>" →
        validator.keyword "additionalProperties" (.bool false) schema (.object fields) = .ok []) ∧
      (¬ ¬ Offends fields "<root>" → ∃ message,
        validator.keyword "additionalProperties" (.bool false) schema (.object fields) =
          .ok [⟨[], message⟩]) := by
    rw [← hknown, schema]
    exact hlawful.additionalProperties _ _ fields rfl rfl
  have hjudged : Report.Judges
      (validator.keyword "additionalProperties" (.bool false) schema (.object fields))
      (¬ Offends fields "<root>") True (PlaceOf "<root>") := by
    refine ⟨hsilent, fun hbad _ => ?_, fun _ hnot => absurd trivial hnot⟩
    obtain ⟨message, hreport⟩ := hviolated hbad
    exact ⟨_, hreport, by simp, by simpa using PlaceOf.root⟩
  exact (Names.of_judges hjudged).congr (by simp) (by simp)

/-- An object breaks no rules but those for its fields and their names. -/
theorem names_check_object (fields : List (CodePoints × Value)) :
    Names (validator.check schema (.object fields)) (CanBeShown fields) (Offends fields) := by
  have htype : validator.keyword "type" (.ofString "object") schema (.object fields) = .ok [] :=
    (hlawful.type .object schema (.object fields)).silent ⟨fields, rfl⟩
  have hproperties : validator.keyword "properties" propertiesSchema schema (.object fields) =
      .collect
        [validator.checkField fields "indentSize" indentSizeSchema,
          validator.checkField fields "keywordCase" keywordCaseSchema,
          validator.checkField fields "keywords" keywordsSchema] :=
    hlawful.properties _ schema fields
  have hindentSize := names_checkField (judges_indentSizeSchema hlawful)
    (fun _ hplace => hplace ▸ PlaceOf.field (List.mem_cons_self : "indentSize" ∈ _)) fields
  have hkeywordCase := names_checkField (judges_keywordCaseSchema hlawful)
    (fun _ hplace => hplace ▸ PlaceOf.field (by decide : "keywordCase" ∈ fieldNames)) fields
  have hkeywords := names_checkField (judges_keywordsSchema hlawful) placeOf_keywords fields
  have hfields := hindentSize.cons (hkeywordCase.cons hkeywords.singleton)
  have hall := (names_unknown hlawful fields).cons hfields.singleton
  rw [check_schema hlawful, htype, hproperties, Report.collect_cons_nil]
  refine hall.congr ?_ fun field => ?_
  · rw [canBeShown_iff, true_and]
  · rw [offends_iff, offends_iff]
    simp

end Documents

end Config

/-! ### The order of a report -/

namespace Config

/-- Values that are read from a text can be shown: no longer integer can be read. -/
theorem showable_of_readable {value : Value} (h : value.Readable) : value.Showable := by
  intro n hn
  induction hn with
  | int =>
      cases h with
      | int _ short => exact short
  | item hmem _ ih =>
      cases h with
      | array _ parts => exact ih (parts _ hmem)
  | field hmem _ ih =>
      cases h with
      | object _ _ parts => exact ih (parts _ hmem)

theorem canBeShown_of_showable {fields : List (CodePoints × Value)}
    (h : Value.Showable (.object fields)) : CanBeShown fields := by
  intro name _ _ value hvalue
  obtain ⟨front, back, rfl, _⟩ := List.lookup_eq_some_iff.1 hvalue
  exact (Value.showable_object_iff _).1 h (.ofString name, value) (by simp)

theorem names_violationsBy {validator : Validator} (hlawful : validator.Lawful)
    (fields : List (CodePoints × Value)) :
    Names (violationsBy validator (.object fields)) (CanBeShown fields) (Offends fields) :=
  (names_check_object hlawful fields).sorted placeLe

theorem asserts_violationsBy_of_not_object {validator : Validator} (hlawful : validator.Lawful)
    {document : Value} (hobject : ∀ fields, document ≠ .object fields) :
    (violationsBy validator document).Asserts document False := by
  have hasserts := asserts_check_of_not_object hlawful hobject
  refine ⟨False.elim, fun hnot hshown => ?_, fun hnot hshown => ?_⟩
  · obtain ⟨message, hreport⟩ := hasserts.violated hnot hshown
    exact ⟨message, by rw [violationsBy, hreport]; simp [Except.map]⟩
  · rw [violationsBy, hasserts.failed hnot hshown]
    rfl

theorem eq_nil_iff_of_named {found : List Violation} {named : String → Prop}
    (h : ∀ field, field ∈ found.map Violation.field ↔ named field) :
    found = [] ↔ ∀ field, ¬ named field := by
  rw [← List.map_eq_nil_iff, List.eq_nil_iff_forall_not_mem]
  exact forall_congr' fun field => not_congr (h field)

/-- An object has no violation exactly if no field is at fault. -/
theorem violations_eq_nil_iff (fields : List (CodePoints × Value)) :
    violations (.object fields) = .ok [] ↔ ∀ field, ¬ Offends fields field := by
  have hnames := names_violationsBy Validator.standard_lawful fields
  rw [violations]
  by_cases hshown : CanBeShown fields
  · obtain ⟨found, hreport, hnamed, _⟩ := hnames.listed hshown
    rw [hreport, Except.ok.injEq]
    exact eq_nil_iff_of_named hnamed
  · -- What cannot be shown is the value of a field that is at fault.
    refine iff_of_false (by simp [hnames.failed hshown]) fun hnone => hshown ?_
    exact fun name _ hoffends => absurd hoffends (hnone name)

theorem exists_object_of_violations_eq_nil {document : Value} (h : violations document = .ok []) :
    ∃ fields, document = .object fields := by
  by_contra hnone
  have hasserts :=
    asserts_violationsBy_of_not_object Validator.standard_lawful (not_exists.1 hnone)
  rw [violations] at h
  by_cases hshown : document.Showable
  · obtain ⟨message, hreport⟩ := hasserts.violated not_false hshown
    simp [hreport] at h
  · simp [hasserts.failed not_false hshown] at h

/-- There is a report on every document that can be shown. -/
theorem exists_violations_of_showable {document : Value} (h : document.Showable) :
    ∃ found, violations document = .ok found := by
  by_cases hobject : ∃ fields, document = .object fields
  · obtain ⟨fields, rfl⟩ := hobject
    obtain ⟨found, hreport, _⟩ :=
      (names_violationsBy Validator.standard_lawful fields).listed (canBeShown_of_showable h)
    exact ⟨found, hreport⟩
  · obtain ⟨message, hreport⟩ := (asserts_violationsBy_of_not_object Validator.standard_lawful
      (not_exists.1 hobject)).violated not_false h
    exact ⟨_, hreport⟩

end Config

end SqlTidy
