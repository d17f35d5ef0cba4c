/-
Module: SqlTidy.Proofs.Words
Purpose: Collapsing the blanks of a text as joining its words.
Main exports: MaximalRuns, maximalRuns_iff, collapse_eq_joinWords, words_collapse,
  collapse_joins_maximal_runs
-/
import SqlTidy.Proofs.Spacing

namespace SqlTidy.Text

/-!
Collapsing looks at blanks only: it squeezes their runs and then drops those at the ends.  What it
leaves can also be said of the other characters.  These come in runs between the blanks, and a
collapsed text is nothing but the runs with single spaces between them, so it is the one form that
all texts with the same runs have in common.
-/

/-- The runs are the maximal runs of characters that are not blank, in order.  A run goes on until
the text ends or a blank follows, so that another run can start only after a blank. -/
inductive MaximalRuns : List Char → List (List Char) → Prop where
  | nil : MaximalRuns [] []
  | blank {c : Char} {rest : List Char} {runs : List (List Char)} (hc : isBlank c = true)
      (later : MaximalRuns rest runs) : MaximalRuns (c :: rest) runs
  | run {run rest : List Char} {runs : List (List Char)} (hne : run ≠ [])
      (hrun : ∀ c ∈ run, isBlank c = false) (hrest : ∀ c ∈ rest.head?, isBlank c = true)
      (later : MaximalRuns rest runs) : MaximalRuns (run ++ rest) (run :: runs)

/-- Among words only blanks end a run. -/
theorem breaks_isBlank (c : Char) : breaks isBlank (fun _ => false) c = isBlank c :=
  Bool.or_false _

/-- The words of a text are its maximal runs. -/
theorem maximalRuns_words (text : List Char) : MaximalRuns text (words text) := by
  induction text using run_induction isBlank (fun _ => false) with
  | nil => exact .nil
  | cons c rest hc ih =>
      have hblank : isBlank c = true := breaks_isBlank c ▸ hc
      rw [words, divide_cons_divides hblank]
      exact .blank hblank ih
  | append run rest hne hrun hrest ih =>
      rw [words, divide_run_append hne hrun hrest]
      exact .run hne (fun c hc => breaks_isBlank c ▸ hrun c hc)
        (fun c hc => breaks_isBlank c ▸ hrest c hc) ih

/-- A text has no other maximal runs than its words. -/
theorem MaximalRuns.eq_words {text : List Char} {runs : List (List Char)}
    (h : MaximalRuns text runs) : runs = words text := by
  induction h with
  | nil => rfl
  | blank hc _ ih => rw [words, divide_cons_divides hc, ih, words]
  | run hne hrun hrest _ ih =>
      rw [words, divide_run_append hne (fun c hc => (breaks_isBlank c).trans (hrun c hc))
        (fun c hc => (breaks_isBlank c).trans (hrest c hc)), ih, words]

theorem maximalRuns_iff {text : List Char} {runs : List (List Char)} :
    MaximalRuns text runs ↔ runs = words text := by
  constructor
  · exact MaximalRuns.eq_words
  · rintro rfl
    exact maximalRuns_words text

/-- Collapsing changes no word. -/
theorem words_collapse (text : List Char) : words (collapse text) = words text :=
  divide_collapse _ text

/-- Squeezing leaves the words as they are and makes the text evenly spaced, and trimming an evenly
spaced text leaves its words with single spaces between them. -/
theorem collapse_eq_joinWords (text : List Char) : collapse text = joinWords (words text) := by
  have hsqueeze : words (squeeze text) = words text := by
    rw [words, divide, foldr_read_squeeze]
    rfl
  calc collapse text
      = joinWords (words (squeeze text)) := (joinWords_words (evenlySpaced_squeeze text)).symm
    _ = joinWords (words text) := by rw [hsqueeze]

/-- Collapsing joins the maximal runs of characters that are not blank with single spaces: the words
of a text are its maximal runs, the only ones, and the collapsed text is the words joined.  So
collapsing twice is collapsing once, and two texts collapse to the same text exactly if they have
the same runs. -/
theorem collapse_joins_maximal_runs :
    (∀ text runs, MaximalRuns text runs ↔ runs = words text) ∧
      (∀ text, collapse text = joinWords (words text)) ∧
      (∀ text, collapse (collapse text) = collapse text) ∧
      ∀ text other, collapse text = collapse other ↔ words text = words other := by
  refine ⟨fun _ _ => maximalRuns_iff, collapse_eq_joinWords, ?_, ?_⟩
  · intro text
    rw [collapse_eq_joinWords (collapse text), words_collapse, ← collapse_eq_joinWords]
  · intro text other
    constructor
    · intro h
      rw [← words_collapse text, h, words_collapse]
    · intro h
      rw [collapse_eq_joinWords, h, ← collapse_eq_joinWords]

/-- Blanks at both ends, and between the words a tab, a no-break space and a line separator. -/
example : collapse "\u3000a\t\u00A0\u2028b\x0B".toList = "a b".toList := by
  decide +kernel

end SqlTidy.Text
