/-
Module: SqlTidy.Proofs.CommandLine
Purpose: A query given as the words of a command line is formatted, unless its first word is too
  long to be looked up as a path.
Main exports: Grammar.parse_plain, Formatter.run_plain,
  Formatter.words_form_query_unless_tooLong
-/
import SqlTidy.CommandLine.Formatter
import SqlTidy.Proofs.Formatting
import SqlTidy.Proofs.Lookup

namespace SqlTidy.CommandLine

open Text

/-!
Words without a leading dash pass through the grammar as inputs.  The first of them is then looked
up as a path before the words count as a query, so whether the command formats them depends on the
files and on what they allow as a name.
-/

/-! ### Words that are no options -/

/-- No word starts with a dash, so that all of them are inputs. -/
def AllPlain (words : List (List Char)) : Prop :=
  ∀ word ∈ words, word.head? ≠ some '-'

theorem AllPlain.tail {word : List Char} {words : List (List Char)}
    (h : AllPlain (word :: words)) : AllPlain words :=
  fun other hother => h other (List.mem_cons_of_mem word hother)

theorem wordOf_of_head?_ne {text : List Char} (specs : List OptionSpec)
    (h : text.head? ≠ some '-') : wordOf specs text = .ok (.plain text) := by
  unfold wordOf
  split
  · simp at h
  · rfl

theorem wordsOf_of_allPlain (specs : List OptionSpec) {words : List (List Char)}
    (h : AllPlain words) : wordsOf specs words = .ok (words.map .plain) := by
  induction words with
  | nil => rfl
  | cons word words ih =>
      have hword : word.head? ≠ some '-' := h word List.mem_cons_self
      have hdivider : ¬ (word == ['-', '-']) = true := by
        intro heq
        exact hword (by simp [beq_iff_eq.1 heq])
      rw [wordsOf, if_neg hdivider, wordOf_of_head?_ne specs hword, ih h.tail]
      rfl

namespace Grammar

variable {σ : Type}

/-- Inputs that are still taken are added to the earlier ones, and nothing else changes. -/
theorem walk_plain (grammar : Grammar σ) (progress : Progress σ) (words : List (List Char))
    (hphase : progress.phase ≠ .after) :
    ∃ phase, grammar.walk progress (words.map .plain) =
      .ok { progress with phase, inputs := progress.inputs ++ words } := by
  induction words generalizing progress with
  | nil => exact ⟨progress.phase, by simp [walk]⟩
  | cons word words ih =>
      have htake : progress.takeInput word =
          { progress with phase := .within, inputs := progress.inputs ++ [word] } := by
        unfold Progress.takeInput
        split
        · contradiction
        · rfl
      obtain ⟨phase, hwalk⟩ := ih (progress.takeInput word) (by simp [htake])
      refine ⟨phase, ?_⟩
      rw [List.map_cons, walk, hwalk, htake]
      simp

theorem parse_plain (grammar : Grammar σ) (initial : σ) {words : List (List Char)}
    (hinputs : grammar.hasInputs = true) (h : AllPlain words) :
    grammar.parse initial words = .ok (initial, words) := by
  obtain ⟨phase, hwalk⟩ := walk_plain grammar { settings := initial, phase := .before } words
    (by simp)
  unfold parse
  rw [wordsOf_of_allPlain grammar.options h, hinputs]
  simp only [bind, Except.bind, if_true, hwalk]
  rfl

end Grammar

namespace Formatter

/-! ### Inputs that name no file -/

variable (view : FileView) (stdin : List UInt8) {first : List Char} {others : List (List Char)}

/-- A first input that leads to no file, or that no file can have as its path, is no obstacle. -/
theorem readInput_words (hdash : first :: others ≠ [['-']])
    (hfile : ∀ bytes, view.find (.ofText first) ≠ .ok (.file bytes))
    (hlong : view.find (.ofText first) ≠ .error .nameTooLong) :
    readInput view stdin (first :: others) = .ok (joinWords (first :: others)) := by
  have hprobe : view.probe (.ofText first) = .ok none ∨
      view.probe (.ofText first) = .ok (some .directory) := by
    unfold FileView.probe
    split
    · rename_i entry hfind
      cases entry with
      | file bytes => exact absurd hfind (hfile bytes)
      | directory => exact Or.inr rfl
    · rename_i hfind
      exact absurd hfind hlong
    · exact Or.inl rfl
  rw [readInput]
  · rcases hprobe with hprobe | hprobe
    · simp only [hprobe]
    · simp only [hprobe]
  · simpa using hdash

theorem readInput_nameTooLong (hdash : first :: others ≠ [['-']])
    (hlong : view.find (.ofText first) = .error .nameTooLong) :
    readInput view stdin (first :: others) =
      .error (.unhandled (.file .nameTooLong (.ofText first))) := by
  have hprobe : view.probe (.ofText first) = .error .nameTooLong := by
    rw [FileView.probe, hlong]
  rw [readInput]
  · simp only [hprobe]
  · simpa using hdash

/-! ### Runs without options -/

theorem run_plain (terminal : Bool) {words : List (List Char)} (hwords : words ≠ [])
    (hplain : AllPlain words) :
    run view stdin terminal words = formatInput view stdin {} words := by
  have hempty : words.isEmpty = false := by simpa using hwords
  rw [run, Grammar.parse_plain grammar {} rfl hplain]
  simp [hempty]

theorem resolveOptions_default : resolveOptions view {} = .ok {} :=
  rfl

variable {view stdin}

/-- Without options, formatting a query that could be read always succeeds. -/
theorem formatInput_of_readInput_ok {inputs : List (List Char)} {query : List Char}
    (h : readInput view stdin inputs = .ok query) :
    ∃ text, Options.format {} query = .ok text ∧
      formatInput view stdin {} inputs =
        { ending := .exit 0, stdout := String.ofList text ++ "\n" } := by
  have hformat : Options.format {} query = .ok _ := Options.format_eq rfl rfl (by decide) query
  refine ⟨_, hformat, ?_⟩
  simp only [formatInput, resolveOptions_default, h, hformat]

theorem formatInput_of_readInput_unhandled {inputs : List (List Char)} {fault : Fault}
    (h : readInput view stdin inputs = .error (.unhandled fault)) :
    formatInput view stdin {} inputs = Run.ofFault fault "" := by
  simp only [formatInput, resolveOptions_default, h]

/-- A run fails on a first word that cannot be looked up for length. -/
theorem run_nameTooLong (tree : FileTree) (stdin : List UInt8) (terminal : Bool)
    (hdash : first :: others ≠ [['-']]) (hplain : AllPlain (first :: others))
    (hlong : tree.find (.ofText first) = .error .nameTooLong) :
    run tree.view stdin terminal (first :: others) =
      Run.ofFault (.file .nameTooLong (.ofText first)) "" := by
  rw [run_plain tree.view stdin terminal (List.cons_ne_nil first others) hplain]
  apply formatInput_of_readInput_unhandled
  exact readInput_nameTooLong tree.view stdin hdash hlong

/-- When words serve as a query.  Words that do not ask for standard input, and whose first one
leads to no file, are joined to a query, which a run without options formats and prints, unless the
first word is too long as a path.  If it is, looking it up fails, and so does the run.  A first word
with no more bytes than a name can have is never too long, and the length of the others does not
matter. -/
theorem words_form_query_unless_tooLong (tree : FileTree) (stdin : List UInt8) (first : List Char)
    (others : List (List Char)) (hdash : first :: others ≠ [['-']])
    (hfile : ∀ bytes, tree.find (.ofText first) ≠ .ok (.file bytes)) :
    (¬ tree.TooLong (.ofText first) →
        readInput tree.view stdin (first :: others) = .ok (joinWords (first :: others)) ∧
        (AllPlain (first :: others) → ∀ terminal,
          ∃ text, Options.format {} (joinWords (first :: others)) = .ok text ∧
            run tree.view stdin terminal (first :: others) =
              { ending := .exit 0, stdout := String.ofList text ++ "\n" })) ∧
      (tree.TooLong (.ofText first) →
        readInput tree.view stdin (first :: others) =
          .error (.unhandled (.file .nameTooLong (.ofText first))) ∧
        (AllPlain (first :: others) → ∀ terminal,
          run tree.view stdin terminal (first :: others) =
            Run.ofFault (.file .nameTooLong (.ofText first)) "")) ∧
      ((Utf8.encode first).length ≤ nameLimit → ¬ tree.TooLong (.ofText first)) := by
  refine ⟨fun hshort => ?_, fun htooLong => ?_, tree.not_tooLong_of_short⟩
  · have hread := readInput_words tree.view stdin hdash hfile
      (mt FileTree.find_eq_nameTooLong_iff.1 hshort)
    refine ⟨hread, fun hplain terminal => ?_⟩
    rw [run_plain tree.view stdin terminal (List.cons_ne_nil first others) hplain]
    exact formatInput_of_readInput_ok hread
  · have hlong := FileTree.find_eq_nameTooLong_iff.2 htooLong
    refine ⟨readInput_nameTooLong tree.view stdin hdash hlong, fun hplain terminal => ?_⟩
    exact run_nameTooLong tree stdin terminal hdash hplain hlong

/-- A word with a name that is too long, which is not reached: the directory before it is
missing. -/
theorem words_form_query_unless_tooLong_missing :
    ¬ FileTree.empty.TooLong (.ofText ("select a/".toList ++ List.replicate 300 'b')) ∧
      ∃ text, Options.format {}
          (joinWords ["select a/".toList ++ List.replicate 300 'b', "from c".toList]) = .ok text ∧
        run FileTree.empty.view [] true
            ["select a/".toList ++ List.replicate 300 'b', "from c".toList] =
          { ending := .exit 0, stdout := String.ofList text ++ "\n" } := by
  have hfind : FileTree.empty.find (.ofText ("select a/".toList ++ List.replicate 300 'b')) =
      .error .missing := by
    decide +kernel
  have hshort : ¬ FileTree.empty.TooLong
      (.ofText ("select a/".toList ++ List.replicate 300 'b')) := by
    rw [← FileTree.find_eq_nameTooLong_iff, hfind]
    exact nofun
  have hplain : AllPlain ["select a/".toList ++ List.replicate 300 'b', "from c".toList] := by
    unfold AllPlain
    decide +kernel
  obtain ⟨hquery, _⟩ := words_form_query_unless_tooLong FileTree.empty []
    ("select a/".toList ++ List.replicate 300 'b') ["from c".toList] (by decide +kernel)
    (by rw [hfind]; exact nofun)
  exact ⟨hshort, (hquery hshort).2 hplain true⟩

/-- A query in one word of 256 bytes without a slash: nothing has this name, and the run fails. -/
theorem run_fails_on_long_word :
    (∀ bytes, FileTree.empty.find (.ofText ("select ".toList ++ List.replicate 249 'a')) ≠
        .ok (.file bytes)) ∧
      run FileTree.empty.view [] false ["select ".toList ++ List.replicate 249 'a'] =
        Run.ofFault (.file .nameTooLong (.ofText ("select ".toList ++ List.replicate 249 'a')))
          "" := by
  have hfind : FileTree.empty.find (.ofText ("select ".toList ++ List.replicate 249 'a')) =
      .error .nameTooLong := by
    decide +kernel
  have hplain : AllPlain ["select ".toList ++ List.replicate 249 'a'] := by
    unfold AllPlain
    decide +kernel
  refine ⟨by rw [hfind]; exact nofun, ?_⟩
  apply run_nameTooLong FileTree.empty [] false _ hplain hfind
  decide +kernel

end Formatter

end SqlTidy.CommandLine
