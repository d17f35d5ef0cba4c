/-
Module: SqlTidy.Proofs.Endings
Purpose: How a run of the formatter ends, and that it prints nothing unless it succeeds.
Main exports: Formatter.StopsFor, Formatter.StopsFor.parse_eq_error_iff, Formatter.Yields,
  Formatter.Prints, Formatter.run_of_prints, Formatter.run_cases,
  Formatter.failing_run_prints_nothing
-/
import SqlTidy.CommandLine.Formatter
import SqlTidy.Files.Tree
import SqlTidy.Proofs.Grammar

namespace SqlTidy.CommandLine.Formatter

/-!
A run can end in many places: while its command line is read, before it looks at any file, and at
each of the stages that lead to a formatted query.  Only three of these endings print anything.
They are described here by what the command line asks for, and a run is shown to succeed exactly at
them.
-/

/-! ### Help and version -/

theorem misuse_of_setIndent_eq_error {flags : Flags} {value : List Char} {stop : Stop}
    (h : setIndent flags value = .error stop) : ∃ message, stop = .misuse message := by
  unfold setIndent at h
  split at h
  · simp at h
  · exact ⟨_, (Except.error.inj h).symm⟩

theorem misuse_of_setCasing_eq_error {flags : Flags} {value : List Char} {stop : Stop}
    (h : setCasing flags value = .error stop) : ∃ message, stop = .misuse message := by
  simp only [setCasing] at h
  split at h
  · simp at h
  · exact ⟨_, (Except.error.inj h).symm⟩

/-- The options that do nothing but stop the reading, and the reason of each. -/
inductive StopsFor : OptionSpec → Stop → Prop
  | help : StopsFor helpOption .help
  | version : StopsFor versionOption .version

/-- Any other option sets something or is misused. -/
theorem stopsFor_or_misuse {flags : Flags} {spec : OptionSpec} {value : Option (List Char)}
    {stop : Stop} (h : act flags spec value = .error stop) :
    StopsFor spec stop ∨ ∃ message, stop = .misuse message := by
  unfold act at h
  split_ifs at h with hhelp hversion hindent hcase
  · obtain rfl := beq_iff_eq.1 hhelp
    obtain rfl := Except.error.inj h
    exact Or.inl .help
  · obtain rfl := beq_iff_eq.1 hversion
    obtain rfl := Except.error.inj h
    exact Or.inl .version
  · cases value with
    | none => simp at h
    | some value => exact Or.inr (misuse_of_setIndent_eq_error h)
  · cases value with
    | none => simp at h
    | some value => exact Or.inr (misuse_of_setCasing_eq_error h)

namespace StopsFor

variable {spec other : OptionSpec} {stop : Stop}

theorem act_eq_error (h : StopsFor spec stop) (flags : Flags) (value : Option (List Char)) :
    act flags spec value = .error stop := by
  cases h with
  | help => rfl
  | version => rfl

theorem unique (h : StopsFor spec stop) (hother : StopsFor other stop) : other = spec := by
  cases h with
  | help => cases hother; rfl
  | version => cases hother; rfl

theorem ne_misuse (h : StopsFor spec stop) (message : String) : stop ≠ .misuse message := by
  cases h with
  | help => simp
  | version => simp

theorem announces (h : StopsFor spec stop) : grammar.Announces spec stop where
  takesNone := by
    cases h with
    | help => rfl
    | version => rfl
  acts := by
    intro flags other value
    constructor
    · intro hact
      rcases stopsFor_or_misuse hact with hother | ⟨message, hmisuse⟩
      · exact h.unique hother
      · exact absurd hmisuse (h.ne_misuse message)
    · rintro rfl
      exact h.act_eq_error flags value
  noMisuse := h.ne_misuse

/-- Reading the command line stops for the reason of the option that it asks for. -/
theorem parse_eq_error_iff (h : StopsFor spec stop) {arguments : List (List Char)} :
    grammar.parse {} arguments = .error stop ↔ grammar.AsksFor {} arguments spec :=
  h.announces.parse_eq_error_iff {} arguments

end StopsFor

/-! ### Queries -/

/-- The run has failed, with an error for the user or with a fault that nothing handles, and has
printed nothing. -/
structure FailsSilently (result : Run) : Prop where
  stdout : result.stdout = ""
  ending : result.ending = .exit 1 ∨ ∃ fault, result.ending = .failure fault

theorem failsSilently_ofFault (fault : Fault) : FailsSilently (.ofFault fault "") :=
  ⟨rfl, Or.inr ⟨fault, rfl⟩⟩

theorem failsSilently_reportedRun (message : String) : FailsSilently (reportedRun message) :=
  ⟨rfl, Or.inl rfl⟩

/-- The text is the query that the inputs lead to, formatted with the options that the flags lead
to. -/
def Yields (view : FileView) (stdin : List UInt8) (flags : Flags) (inputs : List (List Char))
    (text : List Char) : Prop :=
  ∃ options query, resolveOptions view flags = .ok options ∧
    readInput view stdin inputs = .ok query ∧ options.format query = .ok text

theorem formatInput_of_yields {view : FileView} {stdin : List UInt8} {flags : Flags}
    {inputs : List (List Char)} {text : List Char} (h : Yields view stdin flags inputs text) :
    formatInput view stdin flags inputs =
      { ending := .exit 0, stdout := String.ofList text ++ "\n" } := by
  obtain ⟨options, query, hoptions, hquery, htext⟩ := h
  simp only [formatInput, hoptions, hquery, htext]

/-- A query is printed, or one of the three stages before that fails. -/
theorem formatInput_cases (view : FileView) (stdin : List UInt8) (flags : Flags)
    (inputs : List (List Char)) :
    (∃ text, Yields view stdin flags inputs text) ∨
      FailsSilently (formatInput view stdin flags inputs) := by
  unfold formatInput
  split
  next => exact Or.inr (failsSilently_reportedRun _)
  next => exact Or.inr (failsSilently_ofFault _)
  next options hoptions =>
    split
    next => exact Or.inr (failsSilently_reportedRun _)
    next => exact Or.inr (failsSilently_ofFault _)
    next query hquery =>
      split
      next => exact Or.inr (failsSilently_ofFault _)
      next text htext => exact Or.inl ⟨text, options, query, hoptions, hquery, htext⟩

/-! ### Runs -/

/-- What a run prints: the help or the version if the command line asks for it, and else the
formatted query.  Without inputs, a query is taken from standard input only if that is no
terminal. -/
inductive Prints (view : FileView) (stdin : List UInt8) (terminal : Bool)
    (arguments : List (List Char)) : String → Prop
  | help (asked : grammar.AsksFor {} arguments helpOption) :
      Prints view stdin terminal arguments help
  | version (asked : grammar.AsksFor {} arguments versionOption) :
      Prints view stdin terminal arguments (version ++ "\n")
  | query {flags : Flags} {inputs : List (List Char)} {text : List Char}
      (parsed : grammar.parse {} arguments = .ok (flags, inputs))
      (given : inputs ≠ [] ∨ terminal = false) (yields : Yields view stdin flags inputs text) :
      Prints view stdin terminal arguments (String.ofList text ++ "\n")

section Runs

variable {view : FileView} {stdin : List UInt8} {terminal : Bool} {arguments : List (List Char)}

theorem run_of_parse_eq_ok {flags : Flags} {inputs : List (List Char)}
    (hparse : grammar.parse {} arguments = .ok (flags, inputs))
    (hgiven : inputs ≠ [] ∨ terminal = false) :
    run view stdin terminal arguments = formatInput view stdin flags inputs := by
  have hinput : ¬ (inputs.isEmpty && terminal) = true := by
    rcases hgiven with hne | hterminal
    · simp [hne]
    · simp [hterminal]
  simp only [run, hparse, hinput]
  rfl

theorem run_of_parse_eq_error {stop : Stop} (hparse : grammar.parse {} arguments = .error stop) :
    run view stdin terminal arguments = program.stop stop := by
  simp only [run, hparse]

/-- A run that is to print something succeeds, and prints that and nothing else. -/
theorem run_of_prints {out : String} (h : Prints view stdin terminal arguments out) :
    run view stdin terminal arguments = { ending := .exit 0, stdout := out } := by
  cases h with
  | help asked => exact run_of_parse_eq_error (StopsFor.help.parse_eq_error_iff.2 asked)
  | version asked => exact run_of_parse_eq_error (StopsFor.version.parse_eq_error_iff.2 asked)
  | query parsed given yields =>
      rw [run_of_parse_eq_ok parsed given]
      exact formatInput_of_yields yields

/-- A run prints what it is asked for, or its command line is misused, or it fails later. -/
theorem run_cases (view : FileView) (stdin : List UInt8) (terminal : Bool)
    (arguments : List (List Char)) :
    (∃ out, Prints view stdin terminal arguments out) ∨
      (∃ message, grammar.parse {} arguments = .error (.misuse message)) ∨
      FailsSilently (run view stdin terminal arguments) := by
  cases hparse : grammar.parse {} arguments with
  | error stop =>
      cases stop with
      | help => exact Or.inl ⟨_, .help (StopsFor.help.parse_eq_error_iff.1 hparse)⟩
      | version => exact Or.inl ⟨_, .version (StopsFor.version.parse_eq_error_iff.1 hparse)⟩
      | misuse message => exact Or.inr (Or.inl ⟨message, rfl⟩)
  | ok parsed =>
      obtain ⟨flags, inputs⟩ := parsed
      by_cases hgiven : inputs ≠ [] ∨ terminal = false
      · rcases formatInput_cases view stdin flags inputs with ⟨text, hyields⟩ | hfails
        · exact Or.inl ⟨_, .query hparse hgiven hyields⟩
        · rw [run_of_parse_eq_ok hparse hgiven]
          exact Or.inr (Or.inr hfails)
      · -- Nothing to format: the help goes to standard error.
        obtain ⟨rfl, rfl⟩ : inputs = [] ∧ terminal = true := by simpa using hgiven
        have hrun : run view stdin true arguments = { ending := .exit 1, stderr := help } := by
          simp only [run, hparse]
          rfl
        rw [hrun]
        exact Or.inr (Or.inr ⟨rfl, Or.inl rfl⟩)

theorem not_prints_of_ending_ne (h : (run view stdin terminal arguments).ending ≠ .exit 0)
    (out : String) : ¬ Prints view stdin terminal arguments out := by
  intro hprints
  rw [run_of_prints hprints] at h
  exact h rfl

/-- The exit code of a misuse is used for nothing else. -/
theorem ending_eq_misuse_iff :
    (run view stdin terminal arguments).ending = .exit 2 ↔
      ∃ message, grammar.parse {} arguments = .error (.misuse message) := by
  constructor
  · intro hending
    rcases run_cases view stdin terminal arguments with ⟨out, hprints⟩ | hmisuse | hfails
    · rw [run_of_prints hprints] at hending
      simp at hending
    · exact hmisuse
    · simpa [hending] using hfails.ending
  · rintro ⟨message, hparse⟩
    rw [run_of_parse_eq_error hparse]
    rfl

end Runs

/-- Nothing is printed unless the run succeeds.  Whatever the command line, standard input and the
files are: a run that ends with exit code 0 has written no errors, and has printed the help, the
version or the formatted query, whichever the command line asks for.  Any other run has printed
nothing, and there is nothing that it should have printed; it ends with exit code 1, with a fault,
or with exit code 2, and the last exactly if the command line is misused. -/
theorem failing_run_prints_nothing (view : FileView) (stdin : List UInt8) (terminal : Bool)
    (arguments : List (List Char)) :
    ((run view stdin terminal arguments).ending = .exit 0 →
        (run view stdin terminal arguments).stderr = "" ∧
          Prints view stdin terminal arguments (run view stdin terminal arguments).stdout) ∧
      ((run view stdin terminal arguments).ending ≠ .exit 0 →
        (run view stdin terminal arguments).stdout = "" ∧
          (∀ out, ¬ Prints view stdin terminal arguments out) ∧
          ((run view stdin terminal arguments).ending = .exit 1 ∨
            (run view stdin terminal arguments).ending = .exit 2 ∨
            ∃ fault, (run view stdin terminal arguments).ending = .failure fault)) ∧
      ((run view stdin terminal arguments).ending = .exit 2 ↔
        ∃ message, grammar.parse {} arguments = .error (.misuse message)) := by
  refine ⟨?_, ?_, ending_eq_misuse_iff⟩
  · intro hending
    rcases run_cases view stdin terminal arguments with ⟨out, hprints⟩ | ⟨_, hparse⟩ | hfails
    · rw [run_of_prints hprints]
      exact ⟨rfl, hprints⟩
    · rw [run_of_parse_eq_error hparse] at hending
      simp [Program.stop] at hending
    · simpa [hending] using hfails.ending
  · intro hending
    have hnone := not_prints_of_ending_ne hending
    rcases run_cases view stdin terminal arguments with ⟨out, hprints⟩ | ⟨_, hparse⟩ | hfails
    · exact absurd hprints (hnone out)
    · rw [run_of_parse_eq_error hparse]
      exact ⟨rfl, hnone, Or.inr (Or.inl rfl)⟩
    · exact ⟨hfails.stdout, hnone, hfails.ending.imp_right Or.inr⟩

/-- The help is asked for in a group of letters and after another option; it is asked for only
after a misused value; and standard input holds no text. -/
theorem failing_run_prints_nothing_help :
    run FileTree.empty.view [] true ["--indent=3".toList, "-hv".toList, "x".toList] =
        { ending := .exit 0, stdout := help } ∧
      Prints FileTree.empty.view [] true ["--indent=3".toList, "-hv".toList, "x".toList] help ∧
      (run FileTree.empty.view [] true ["--indent=-1".toList, "-h".toList]).ending ≠ .exit 0 ∧
      (∀ out, ¬ Prints FileTree.empty.view [] true ["--indent=-1".toList, "-h".toList] out) ∧
      (run FileTree.empty.view [0xff] false []).ending ≠ .exit 0 ∧
      (run FileTree.empty.view [0xff] false []).stdout = "" := by
  have hasked : run FileTree.empty.view [] true ["--indent=3".toList, "-hv".toList, "x".toList] =
      { ending := .exit 0, stdout := help } := by
    decide +kernel
  have hmisused : (run FileTree.empty.view [] true ["--indent=-1".toList, "-h".toList]).ending ≠
      .exit 0 := by
    decide +kernel
  have hbytes : (run FileTree.empty.view [0xff] false []).ending ≠ .exit 0 := by
    decide +kernel
  obtain ⟨hprints, _, _⟩ := failing_run_prints_nothing FileTree.empty.view [] true
    ["--indent=3".toList, "-hv".toList, "x".toList]
  obtain ⟨_, hnothing, _⟩ := failing_run_prints_nothing FileTree.empty.view [] true
    ["--indent=-1".toList, "-h".toList]
  obtain ⟨_, hsilent, _⟩ := failing_run_prints_nothing FileTree.empty.view [0xff] false []
  rw [hasked] at hprints
  exact ⟨hasked, (hprints rfl).2, hmisused, (hnothing hmisused).2.1, hbytes, (hsilent hbytes).1⟩

end SqlTidy.CommandLine.Formatter
