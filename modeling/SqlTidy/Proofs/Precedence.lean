/-
Module: SqlTidy.Proofs.Precedence
Purpose: Which of several settings for one option counts, over any number of merges and over a run
  with a configuration file and flags.
Main exports: Options.Accepts, Options.exists_merge_eq_ok_iff, Options.Field, Options.mergeAll,
  Options.LastGiven, Options.Field.lastGiven_mergeAll, Config.exists_load_eq_ok_iff,
  options_precedence
-/
import SqlTidy.CommandLine.Formatter
import SqlTidy.Files.Tree
import SqlTidy.Proofs.Configuration

namespace SqlTidy

open Json (Value)

/-!
Only nulls and missing keyword sets are silent: an indent size of zero, an empty text and an empty
keyword set say something.  What a setting gives is read off it here without regard to the options,
and the options after a run are described by what was given last.
-/

/-! ### What settings give -/

namespace Json.Value

/-- The value, unless it is null. -/
def given? : Value → Option Value
  | null => none
  | value => some value

theorem given?_of_ne_null {value : Value} (h : value ≠ .null) : value.given? = some value := by
  cases value with
  | null => exact absurd rfl h
  | bool | int | float | string | array | object => rfl

theorem kind_beq_null_iff (value : Value) : (value.kind == .null) = true ↔ value = .null := by
  cases value <;> simp [kind]

end Json.Value

namespace Setting

/-- The indent size that a setting gives. -/
def indentSize? : Setting → Option Value
  | indentSize value => value.given?
  | keywordCase _ | keywords _ | other _ _ => none

/-- The case of keywords that a setting gives. -/
def keywordCase? : Setting → Option Value
  | keywordCase value => value.given?
  | indentSize _ | keywords _ | other _ _ => none

/-- The keywords that a setting gives. -/
def keywords? : Setting → Option (Option KeywordSet)
  | keywords (some set) => some (some set)
  | keywords none | indentSize _ | keywordCase _ | other _ _ => none

end Setting

namespace Options

variable {α : Type}

/-- The last value that settings give. -/
def lastOf (read? : Setting → Option α) (settings : List Setting) : Option α :=
  (settings.filterMap read?).getLast?

@[simp]
theorem lastOf_nil (read? : Setting → Option α) : lastOf read? [] = none :=
  rfl

@[simp]
theorem lastOf_cons (read? : Setting → Option α) (setting : Setting) (settings : List Setting) :
    lastOf read? (setting :: settings) = (lastOf read? settings).or (read? setting) := by
  cases hread : read? setting with
  | none => simp [lastOf, hread]
  | some value => cases hlast : lastOf read? settings <;> simp_all [lastOf, List.getLast?_cons]

/-! ### One merge -/

/-- Settings that can be merged: those of no option are silent, and none has the name of the options
themselves. -/
def Accepts (settings : List Setting) : Prop :=
  ∀ name value, Setting.other name value ∈ settings → name ≠ "self" ∧ value = .null

/-- Everything that a setting can do. -/
theorem override_cases {options result : Options} {setting : Setting}
    (h : options.override setting = .ok result) :
    (setting.isSilent = true ∧ result = options) ∨
      (∃ value, value ≠ .null ∧ setting = .indentSize value ∧
        result = { options with indentSize := value }) ∨
      (∃ value, value ≠ .null ∧ setting = .keywordCase value ∧
        result = { options with keywordCase := value }) ∨
      ∃ set, setting = .keywords (some set) ∧ result = { options with keywords := some set } := by
  unfold override at h
  split at h
  · rename_i hsilent
    exact Or.inl ⟨hsilent, (Except.ok.inj h).symm⟩
  · rename_i hloud
    right
    cases setting with
    | indentSize value =>
        rw [Setting.isSilent, Value.kind_beq_null_iff] at hloud
        exact Or.inl ⟨value, hloud, rfl, (Except.ok.inj h).symm⟩
    | keywordCase value =>
        rw [Setting.isSilent, Value.kind_beq_null_iff] at hloud
        exact Or.inr (Or.inl ⟨value, hloud, rfl, (Except.ok.inj h).symm⟩)
    | keywords found =>
        cases found with
        | none => exact absurd rfl hloud
        | some set => exact Or.inr (Or.inr ⟨set, rfl, (Except.ok.inj h).symm⟩)
    | other name value =>
        rw [assign] at h
        split at h <;> simp at h

/-- A setting fails only if it is of no option and says something. -/
theorem exists_override_eq_ok_iff (options : Options) (setting : Setting) :
    (∃ result, options.override setting = .ok result) ↔
      ∀ name value, setting = .other name value → value = .null := by
  constructor
  · rintro ⟨result, h⟩ name value rfl
    rcases override_cases h with
      ⟨hsilent, _⟩ | ⟨_, _, hother, _⟩ | ⟨_, _, hother, _⟩ | ⟨_, hother, _⟩
    · exact (Value.kind_beq_null_iff value).1 hsilent
    · simp at hother
    · simp at hother
    · simp at hother
  · intro h
    unfold override
    split
    · exact ⟨options, rfl⟩
    · rename_i hloud
      cases setting with
      | indentSize value => exact ⟨_, rfl⟩
      | keywordCase value => exact ⟨_, rfl⟩
      | keywords set => exact ⟨_, rfl⟩
      | other name value =>
          rw [h name value rfl] at hloud
          exact absurd rfl hloud

theorem foldlM_override_cons (options : Options) (setting : Setting) (settings : List Setting)
    (result : Options) :
    (setting :: settings).foldlM override options = .ok result ↔
      ∃ next, options.override setting = .ok next ∧ settings.foldlM override next = .ok result := by
  rw [List.foldlM_cons]
  cases options.override setting with
  | error fault => simp [bind, Except.bind]
  | ok next => simp [bind, Except.bind]

theorem exists_foldlM_override_iff (options : Options) (settings : List Setting) :
    (∃ result, settings.foldlM override options = .ok result) ↔
      ∀ name value, Setting.other name value ∈ settings → value = .null := by
  induction settings generalizing options with
  | nil => exact iff_of_true ⟨options, rfl⟩ (by simp)
  | cons setting settings ih =>
      constructor
      · rintro ⟨result, hresult⟩ name value hmem
        obtain ⟨next, hnext, hrest⟩ := (foldlM_override_cons ..).1 hresult
        rcases List.mem_cons.1 hmem with hhead | htail
        · exact (exists_override_eq_ok_iff options setting).1 ⟨next, hnext⟩ name value hhead.symm
        · exact (ih next).1 ⟨result, hrest⟩ name value htail
      · intro h
        obtain ⟨next, hnext⟩ := (exists_override_eq_ok_iff options setting).2
          fun name value heq => h name value (heq ▸ List.mem_cons_self)
        obtain ⟨result, hresult⟩ := (ih next).2
          fun name value hmem => h name value (List.mem_cons_of_mem _ hmem)
        exact ⟨result, (foldlM_override_cons ..).2 ⟨next, hnext, hresult⟩⟩

theorem any_isNamed_iff (name : String) (settings : List Setting) :
    settings.any (Setting.isNamed name) = true ↔ ∃ value, Setting.other name value ∈ settings := by
  rw [List.any_eq_true]
  constructor
  · rintro ⟨setting, hmem, hnamed⟩
    cases setting with
    | other found value =>
        obtain rfl : found = name := by simpa [Setting.isNamed] using hnamed
        exact ⟨value, hmem⟩
    | indentSize | keywordCase | keywords => simp [Setting.isNamed] at hnamed
  · rintro ⟨value, hmem⟩
    exact ⟨_, hmem, by simp [Setting.isNamed]⟩

/-- Whether a merge succeeds does not depend on the options. -/
theorem exists_merge_eq_ok_iff (options : Options) (settings : List Setting) :
    (∃ result, options.merge settings = .ok result) ↔ Accepts settings := by
  unfold merge
  split
  · rename_i hself
    obtain ⟨value, hmem⟩ := (any_isNamed_iff "self" settings).1 hself
    exact iff_of_false (by simp) fun h => (h "self" value hmem).1 rfl
  · rename_i hself
    rw [any_isNamed_iff] at hself
    rw [exists_foldlM_override_iff]
    constructor
    · intro h name value hmem
      refine ⟨?_, h name value hmem⟩
      rintro rfl
      exact hself ⟨value, hmem⟩
    · intro h name value hmem
      exact (h name value hmem).2

/-! ### Fields -/

/-- A field of the options, and the values that settings give for it. -/
structure Field (α : Type) where
  get : Options → α
  read? : Setting → Option α
  get_override : ∀ {options result : Options} {setting : Setting},
    options.override setting = .ok result → get result = (read? setting).getD (get options)

namespace Field

def indentSize : Field Value where
  get := Options.indentSize
  read? := Setting.indentSize?
  get_override := by
    intro options result setting h
    rcases override_cases h with
      ⟨hsilent, rfl⟩ | ⟨value, hvalue, rfl, rfl⟩ | ⟨_, _, rfl, rfl⟩ | ⟨_, rfl, rfl⟩
    · cases setting with
      | indentSize value => rw [(Value.kind_beq_null_iff value).1 hsilent]; rfl
      | keywordCase | keywords | other => rfl
    · rw [Setting.indentSize?, Value.given?_of_ne_null hvalue, Option.getD_some]
    · rfl
    · rfl

def keywordCase : Field Value where
  get := Options.keywordCase
  read? := Setting.keywordCase?
  get_override := by
    intro options result setting h
    rcases override_cases h with
      ⟨hsilent, rfl⟩ | ⟨_, _, rfl, rfl⟩ | ⟨value, hvalue, rfl, rfl⟩ | ⟨_, rfl, rfl⟩
    · cases setting with
      | keywordCase value => rw [(Value.kind_beq_null_iff value).1 hsilent]; rfl
      | indentSize | keywords | other => rfl
    · rfl
    · rw [Setting.keywordCase?, Value.given?_of_ne_null hvalue, Option.getD_some]
    · rfl

def keywords : Field (Option KeywordSet) where
  get := Options.keywords
  read? := Setting.keywords?
  get_override := by
    intro options result setting h
    rcases override_cases h with
      ⟨hsilent, rfl⟩ | ⟨_, _, rfl, rfl⟩ | ⟨_, _, rfl, rfl⟩ | ⟨set, rfl, rfl⟩
    · cases setting with
      | keywords found =>
          obtain rfl : found = none := by simpa [Setting.isSilent] using hsilent
          rfl
      | indentSize | keywordCase | other => rfl
    · rfl
    · rfl
    · rfl

variable (field : Field α)

theorem get_foldlM_override {options result : Options} {settings : List Setting}
    (h : settings.foldlM override options = .ok result) :
    field.get result = (lastOf field.read? settings).getD (field.get options) := by
  induction settings generalizing options with
  | nil =>
      obtain rfl := Except.ok.inj h
      rfl
  | cons setting settings ih =>
      obtain ⟨next, hnext, hrest⟩ := (foldlM_override_cons ..).1 h
      rw [ih hrest, field.get_override hnext, lastOf_cons]
      cases lastOf field.read? settings <;> rfl

/-- A merge leaves in a field the last value that it gives for it. -/
theorem get_merge {options result : Options} {settings : List Setting}
    (h : options.merge settings = .ok result) :
    field.get result = (lastOf field.read? settings).getD (field.get options) := by
  unfold merge at h
  split at h
  · simp at h
  · exact field.get_foldlM_override h

end Field

/-! ### Any number of merges -/

/-- The options after a merge; one that fails is skipped. -/
def mergeOrKeep (options : Options) (settings : List Setting) : Options :=
  (options.merge settings).toOption.getD options

/-- The options after several merges. -/
def mergeAll (options : Options) (steps : List (List Setting)) : Options :=
  steps.foldl mergeOrKeep options

/-- A value is what a step that succeeds gave last, or the one at the start if no such step gave
any. -/
inductive LastGiven (read? : Setting → Option α) (start : α) : List (List Setting) → α → Prop
  | never {steps : List (List Setting)}
      (hnone : ∀ step ∈ steps, Accepts step → lastOf read? step = none) :
      LastGiven read? start steps start
  | given (earlier : List (List Setting)) {step : List Setting} {later : List (List Setting)}
      {value : α}
      (haccepts : Accepts step) (hvalue : lastOf read? step = some value)
      (hnone : ∀ other ∈ later, Accepts other → lastOf read? other = none) :
      LastGiven read? start (earlier ++ step :: later) value

theorem mergeOrKeep_of_not_accepts {settings : List Setting} (h : ¬ Accepts settings)
    (options : Options) : options.mergeOrKeep settings = options := by
  rw [← exists_merge_eq_ok_iff options] at h
  unfold mergeOrKeep
  cases hmerge : options.merge settings with
  | ok result => exact absurd ⟨result, hmerge⟩ h
  | error fault => rfl

namespace Field

variable (field : Field α)

theorem get_mergeOrKeep {settings : List Setting} (h : Accepts settings) (options : Options) :
    field.get (options.mergeOrKeep settings) =
      (lastOf field.read? settings).getD (field.get options) := by
  obtain ⟨result, hresult⟩ := (exists_merge_eq_ok_iff options settings).2 h
  rw [mergeOrKeep, hresult]
  exact field.get_merge hresult

/-- What was given last after a first step was given last also with it.  If nothing was given
after it, the value is the one that the first step leaves. -/
theorem lastGiven_cons {options : Options} {step : List Setting} {steps : List (List Setting)}
    {value : α} (h : LastGiven field.read? (field.get (options.mergeOrKeep step)) steps value) :
    LastGiven field.read? (field.get options) (step :: steps) value := by
  cases h with
  | given earlier haccepts hvalue hnone => exact .given (step :: earlier) haccepts hvalue hnone
  | never hnone =>
      by_cases haccepts : Accepts step
      · rw [field.get_mergeOrKeep haccepts]
        cases hstep : lastOf field.read? step with
        | none => exact .never (List.forall_mem_cons.2 ⟨fun _ => hstep, hnone⟩)
        | some value => exact .given [] haccepts hstep hnone
      · rw [mergeOrKeep_of_not_accepts haccepts]
        exact .never (List.forall_mem_cons.2 ⟨fun h => absurd h haccepts, hnone⟩)

/-- After any number of merges, a field has what was given for it last. -/
theorem lastGiven_mergeAll (options : Options) (steps : List (List Setting)) :
    LastGiven field.read? (field.get options) steps (field.get (options.mergeAll steps)) := by
  induction steps generalizing options with
  | nil => exact .never (by simp)
  | cons step steps ih => exact field.lastGiven_cons (ih (options.mergeOrKeep step))

end Field

end Options

/-! ### A configuration file and flags -/

namespace Config

/-- The file at a path has the text of a document without violations. -/
def HoldsDocument (view : FileView) (path : Path) (document : Value) : Prop :=
  violations document = .ok [] ∧
    ∃ text, view.readTextBy Utf8.decodeSigned path = .ok text ∧ Value.read text = .ok document

variable {view : FileView} {path : Path}

theorem load_of_holdsDocument {document : Value} (h : HoldsDocument view path document)
    (base : Options) : load view path base = options document base := by
  obtain ⟨hviolations, text, htext, hread⟩ := h
  simp only [load, htext, hread, options_of_violations_eq_nil hviolations]
  rfl

theorem exists_holdsDocument_of_load {base result : Options}
    (h : load view path base = .ok result) : ∃ document, HoldsDocument view path document := by
  unfold load at h
  simp only at h
  split at h
  · simp at h
  · simp at h
  · rename_i text htext
    split at h
    · simp at h
    · simp at h
    · rename_i document hread
      refine ⟨document, ?_, text, htext, hread⟩
      cases hoptions : options document base with
      | error fault => simp [hoptions, Except.mapError] at h
      | ok found => exact violations_of_options_ok hoptions

/-- Loading gives options just for a file with a document without violations. -/
theorem exists_load_eq_ok_iff (view : FileView) (path : Path) (base : Options) :
    (∃ loaded, load view path base = .ok loaded) ↔
      ∃ document, HoldsDocument view path document := by
  constructor
  · rintro ⟨loaded, hloaded⟩
    exact exists_holdsDocument_of_load hloaded
  · rintro ⟨document, hdocument⟩
    rw [load_of_holdsDocument hdocument, options_of_violations_eq_nil hdocument.1]
    exact ⟨_, rfl⟩

end Config

namespace CommandLine.Formatter

/-- The flags, then the fields of a document, then the usual values. -/
def Flags.over (flags : Flags) (document : Value) : Options where
  indentSize := (flags.indent.given?.or (Config.field? document "indentSize")).getD (.int 2)
  keywordCase :=
    (flags.casing.given?.or (Config.field? document "keywordCase")).getD (.ofString "upper")
  keywords := some (((Config.field? document "keywords").map Config.keywordsOf).getD .standard)

/-- Flags are merged into any options. -/
theorem merge_settings (flags : Flags) (options : Options) :
    options.merge flags.settings =
      .ok ⟨flags.indent.given?.getD options.indentSize,
        flags.casing.given?.getD options.keywordCase, options.keywords⟩ := by
  have haccepts : Options.Accepts flags.settings := by
    intro name value hmem
    simp [Flags.settings] at hmem
  obtain ⟨⟨indentSize, keywordCase, keywords⟩, hresult⟩ :=
    (options.exists_merge_eq_ok_iff _).2 haccepts
  have hindent : indentSize = _ := Options.Field.indentSize.get_merge hresult
  have hcase : keywordCase = _ := Options.Field.keywordCase.get_merge hresult
  have hkeywords : keywords = _ := Options.Field.keywords.get_merge hresult
  rw [hresult, hindent, hcase, hkeywords]
  simp [Flags.settings, Options.Field.indentSize, Options.Field.keywordCase,
    Options.Field.keywords, Setting.indentSize?, Setting.keywordCase?, Setting.keywords?]

theorem resolveOptions_of_no_config (view : FileView) {flags : Flags}
    (h : flags.config.getD [] = []) :
    resolveOptions view flags = .ok (flags.over (.object [])) := by
  obtain ⟨indent, casing, config⟩ := flags
  have hmerge := merge_settings ⟨indent, casing, config⟩ {}
  have hresolve : resolveOptions view ⟨indent, casing, config⟩ =
      Options.merge {} (Flags.settings ⟨indent, casing, config⟩) := by
    rcases config with _ | _ | ⟨c, path⟩
    · rfl
    · rfl
    · simp at h
  rw [hresolve, hmerge]
  simp [Flags.over, Config.field?, Value.lookup]

theorem resolveOptions_of_holdsDocument {view : FileView} {flags : Flags} {path : List Char}
    {document : Value} (hconfig : flags.config = some path) (hpath : path ≠ [])
    (h : Config.HoldsDocument view (.ofText path) document) :
    resolveOptions view flags = .ok (flags.over document) := by
  obtain ⟨c, rest, rfl⟩ := List.exists_cons_of_ne_nil hpath
  simp only [resolveOptions, hconfig, Config.load_of_holdsDocument h,
    Config.options_of_violations_eq_nil h.1]
  refine (merge_settings flags _).trans ?_
  simp [Flags.over]

/-- Which setting counts.  Merging fails just for settings of no option that say something, whatever
the options are.  After any number of merges, with those that fail skipped, each field has the last
value that was given for it, and the one of the base if none was.  So the options of a run are the
flags that are given, then the fields of the configuration file, then the usual values. -/
theorem options_precedence :
    (∀ (options : Options) (settings : List Setting),
        (∃ result, options.merge settings = .ok result) ↔ Options.Accepts settings) ∧
      (∀ (base : Options) (steps : List (List Setting)),
        Options.LastGiven Setting.indentSize? base.indentSize steps
            (base.mergeAll steps).indentSize ∧
          Options.LastGiven Setting.keywordCase? base.keywordCase steps
            (base.mergeAll steps).keywordCase ∧
          Options.LastGiven Setting.keywords? base.keywords steps
            (base.mergeAll steps).keywords) ∧
      ∀ (view : FileView) (flags : Flags),
        (flags.config.getD [] = [] →
          resolveOptions view flags = .ok (flags.over (.object []))) ∧
        ∀ path, flags.config = some path → path ≠ [] →
          ((∃ loaded, Config.load view (.ofText path) {} = .ok loaded) ↔
            ∃ document, Config.HoldsDocument view (.ofText path) document) ∧
          ∀ document, Config.HoldsDocument view (.ofText path) document →
            resolveOptions view flags = .ok (flags.over document) := by
  refine ⟨Options.exists_merge_eq_ok_iff, fun base steps => ⟨?_, ?_, ?_⟩,
    fun view flags => ⟨?_, ?_⟩⟩
  · exact Options.Field.indentSize.lastGiven_mergeAll base steps
  · exact Options.Field.keywordCase.lastGiven_mergeAll base steps
  · exact Options.Field.keywords.lastGiven_mergeAll base steps
  · exact resolveOptions_of_no_config view
  · intro path hconfig hpath
    exact ⟨Config.exists_load_eq_ok_iff view (.ofText path) {},
      fun document hdocument => resolveOptions_of_holdsDocument hconfig hpath hdocument⟩

/-- An indent size of zero counts, as a setting before one that fails and one that is silent, and as
a flag before a file. -/
theorem options_precedence_zero :
    Options.LastGiven Setting.indentSize? (.int 2)
        [[.indentSize (.int 0), .keywordCase (.ofString "")],
          [.indentSize (.int 8), .other "indent" (.int 4)],
          [.indentSize .null, .other "indent" .null]] (.int 0) ∧
      resolveOptions (FileTree.empty.put [.named "c"] (Utf8.encode
          "\x7b\x22indentSize\x22:4,\x22keywordCase\x22:\x22keep\x22\x7d".toList)).view
        ⟨.int 0, .null, some "c".toList⟩ = .ok ⟨.int 0, .ofString "keep", some .standard⟩ := by
  obtain ⟨_, hsteps, hrun⟩ := options_precedence
  have hread : Value.read
      "\x7b\x22indentSize\x22:4,\x22keywordCase\x22:\x22keep\x22\x7d".toList =
        .ok (Value.record [("indentSize", .int 4), ("keywordCase", .ofString "keep")]) := by
    cbv
  have hviolations : Config.violations
      (Value.record [("indentSize", .int 4), ("keywordCase", .ofString "keep")]) = .ok [] := by
    decide +kernel
  refine ⟨(hsteps {} _).1, ?_⟩
  refine ((hrun _ _).2 "c".toList rfl (by simp)).2 _ ⟨hviolations, _, ?_, hread⟩
  decide +kernel

end CommandLine.Formatter

end SqlTidy
