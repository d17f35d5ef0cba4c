/-
Module: SqlTidy.Proofs.Runs
Purpose: A text as a sequence of runs, and the places of a keyword in that sequence.
Main exports: runs, WordShaped, matchesRuns, flags, Keyword.coverage, Keyword.coverage_fold,
  Keyword.coverage_append
-/
import SqlTidy.Proofs.Folding

namespace SqlTidy

open Text

/-!
A text is cut into its maximal runs of word characters, with every other character by itself between
them.  A keyword of `k` words stands where `k` runs in a row are its words, whatever the case of
their ASCII letters, with exactly one space between neighbours.  The places are taken from left to
right and do not overlap.  Nothing here depends on how the text was found or will be rewritten.
-/

/-- The runs of a text: its maximal runs of word characters, and every other character alone. -/
def Text.runs (text : List Char) : List (List Char) :=
  divide (fun _ => false) (fun c => !Keyword.isWordChar c) text

/-- The text does not start with a word character. -/
def Text.StartsApart (text : List Char) : Prop :=
  ∀ c ∈ text.head?, Keyword.isWordChar c = false

namespace Text

theorem startsApart_nil : StartsApart [] := by
  intro c hc
  simp at hc

theorem startsApart_cons {c : Char} {text : List Char} (hc : Keyword.isWordChar c = false) :
    StartsApart (c :: text) := by
  intro d hd
  obtain rfl : c = d := by simpa using hd
  exact hc

@[simp] theorem runs_nil : runs [] = [] := rfl

theorem runs_cons {c : Char} (hc : Keyword.isWordChar c = false) (text : List Char) :
    runs (c :: text) = [c] :: runs text :=
  divide_cons_standsAlone rfl (by simp [hc]) text

theorem runs_append {before after : List Char} (h : StartsApart after) :
    runs (before ++ after) = runs before ++ runs after :=
  divide_append_of_head? fun c hc => by simp [breaks, h c hc]

theorem runs_run_append {run rest : List Char} (hne : run ≠ [])
    (hrun : ∀ c ∈ run, Keyword.isWordChar c = true) (hrest : StartsApart rest) :
    runs (run ++ rest) = run :: runs rest :=
  divide_run_append hne (fun c hc => by simp [breaks, hrun c hc])
    fun c hc => by simp [breaks, hrest c hc]

theorem flatten_runs (text : List Char) : (runs text).flatten = text := by
  simp [runs, flatten_divide]

theorem runs_fold (text : List Char) : runs (fold text) = (runs text).map fold :=
  (map_divide Char.toLower (fun _ => rfl) (fun c => by rw [isWordChar_toLower]) text).symm

/-- A text is empty, or starts with a character that is no word character, or starts with a run of
word characters. -/
theorem word_cases (text : List Char) :
    text = [] ∨ (∃ c rest, text = c :: rest ∧ Keyword.isWordChar c = false) ∨
      ∃ run rest, text = run ++ rest ∧ run ≠ [] ∧
        (∀ c ∈ run, Keyword.isWordChar c = true) ∧ StartsApart rest := by
  rcases run_cases (fun _ => false) (fun c => !Keyword.isWordChar c) text with
    rfl | ⟨c, rest, rfl, hc⟩ | ⟨run, rest, rfl, hne, hrun, hrest⟩
  · exact Or.inl rfl
  · exact Or.inr (Or.inl ⟨c, rest, rfl, by simpa [breaks] using hc⟩)
  · exact Or.inr (Or.inr ⟨run, rest, rfl, hne, fun c hc => by simpa [breaks] using hrun c hc,
      fun c hc => by simpa [breaks] using hrest c hc⟩)

end Text

namespace Keyword

/-! ### Word-shaped keywords -/

/-- A keyword has at least one word, and every word is a non-empty run of capital letters, digits and
underscores. -/
structure WordShaped (words : List (List Char)) : Prop where
  ne_nil : words ≠ []
  word_ne_nil : ∀ word ∈ words, word ≠ []
  isCapital : ∀ word ∈ words, ∀ c ∈ word, isCapitalWordChar c = true

theorem wordShaped_of_isWordShaped {keyword : Keyword} (h : keyword.isWordShaped = true) :
    WordShaped keyword.words := by
  simp only [isWordShaped, Bool.and_eq_true, Bool.not_eq_true', List.all_eq_true,
    List.isEmpty_eq_false_iff] at h
  exact ⟨h.1, fun word hword => (h.2 word hword).1, fun word hword => (h.2 word hword).2⟩

theorem isWordChar_of_isCapital {c : Char} (h : isCapitalWordChar c = true) :
    isWordChar c = true := by
  simp only [isCapitalWordChar, Bool.or_eq_true] at h
  rcases h with (hupper | hdigit) | hscore
  · simp [isWordChar, Char.isAlphanum, Char.isAlpha, hupper]
  · simp [isWordChar, Char.isAlphanum, hdigit]
  · simp [isWordChar, hscore]

namespace WordShaped

theorem isWordChar {words : List (List Char)} (h : WordShaped words) {word : List Char}
    (hword : word ∈ words) : ∀ c ∈ word, Keyword.isWordChar c = true :=
  fun c hc => isWordChar_of_isCapital (h.isCapital word hword c hc)

theorem tail {word next : List Char} {words : List (List Char)}
    (h : WordShaped (word :: next :: words)) : WordShaped (next :: words) where
  ne_nil := List.cons_ne_nil _ _
  word_ne_nil := fun w hw => h.word_ne_nil w (List.mem_cons_of_mem _ hw)
  isCapital := fun w hw => h.isCapital w (List.mem_cons_of_mem _ hw)

end WordShaped

/-! ### Places of a keyword -/

/-- The runs start with the words, with one space between neighbours. -/
def matchesRuns : (words runs : List (List Char)) → Bool
  | [word], run :: _ => fold word == fold run
  | word :: words, run :: gap :: runs =>
      fold word == fold run && gap == [' '] && matchesRuns words runs
  | _, _ => false

/-- For each run whether it belongs to a place of the words; the first `pending` runs belong to a
place that has been found before. -/
def flags (words : List (List Char)) : (pending : Nat) → (runs : List (List Char)) → List Bool
  | _, [] => []
  | pending + 1, _ :: runs => true :: flags words pending runs
  | 0, run :: runs =>
      if matchesRuns words (run :: runs) then
        true :: flags words (2 * words.length - 2) runs
      else false :: flags words 0 runs

/-- Repeats the flag of each run for each of its characters. -/
def spreadFlags (flags : List Bool) (runs : List (List Char)) : List Bool :=
  (List.zipWith (fun flag run => List.replicate run.length flag) flags runs).flatten

/-- For each character of a text whether it belongs to a place of the keyword. -/
def coverage (keyword : Keyword) (text : List Char) : List Bool :=
  spreadFlags (flags keyword.words 0 (runs text)) (runs text)

theorem matchesRuns_cons_cons (word next : List Char) (words : List (List Char))
    (run gap : List Char) (rest : List (List Char)) :
    matchesRuns (word :: next :: words) (run :: gap :: rest) =
      (fold word == fold run && gap == [' '] && matchesRuns (next :: words) rest) := rfl

@[simp] theorem matchesRuns_nil (words : List (List Char)) : matchesRuns words [] = false := by
  cases words with
  | nil => rfl
  | cons word words =>
      cases words with
      | nil => rfl
      | cons next words => rfl

theorem matchesRuns_singleton (word next run : List Char) (words : List (List Char)) :
    matchesRuns (word :: next :: words) [run] = false := rfl

/-- A match starts with a run that is the first word, whatever its case. -/
theorem fold_eq_of_matchesRuns {word run : List Char} {words rest : List (List Char)}
    (h : matchesRuns (word :: words) (run :: rest) = true) : fold word = fold run := by
  cases words with
  | nil => simpa [matchesRuns] using h
  | cons next words =>
      cases rest with
      | nil => simp [matchesRuns_singleton] at h
      | cons gap rest =>
          simp only [matchesRuns_cons_cons, Bool.and_eq_true, beq_iff_eq] at h
          exact h.1.1

/-- Texts that fold alike have word characters at the same places. -/
theorem isWordChar_of_fold_eq {word run : List Char} (h : fold word = fold run)
    (hword : ∀ c ∈ word, isWordChar c = true) : ∀ c ∈ run, isWordChar c = true := by
  intro c hc
  have hmem : c.toLower ∈ fold word := h ▸ List.mem_map_of_mem hc
  obtain ⟨d, hd, hdc⟩ := List.mem_map.1 hmem
  rw [← apply_eq_of_toLower_eq isWordChar_toLower hdc]
  exact hword d hd

/-- No keyword starts at a text that does not start with a word character. -/
theorem matchesRuns_of_startsApart {words : List (List Char)} (hwords : WordShaped words)
    {text : List Char} (h : StartsApart text) : matchesRuns words (runs text) = false := by
  obtain ⟨word, words, rfl⟩ := List.exists_cons_of_ne_nil hwords.ne_nil
  apply Bool.eq_false_iff.2
  intro hmatch
  cases text with
  | nil => simp at hmatch
  | cons c text =>
      have hc : isWordChar c = false := h c rfl
      rw [runs_cons hc] at hmatch
      have hword := isWordChar_of_fold_eq (fold_eq_of_matchesRuns hmatch)
        (hwords.isWordChar List.mem_cons_self) c (by simp)
      rw [hc] at hword
      exact absurd hword (by simp)

theorem length_of_matchesRuns {words runs : List (List Char)}
    (h : matchesRuns words runs = true) : 2 * words.length ≤ runs.length + 1 := by
  induction words generalizing runs with
  | nil => simp
  | cons word words ih =>
      cases runs with
      | nil => simp at h
      | cons run rest =>
          cases words with
          | nil =>
              simp only [List.length_cons, List.length_nil]
              omega
          | cons next words =>
              cases rest with
              | nil => simp [matchesRuns_singleton] at h
              | cons gap rest =>
                  simp only [matchesRuns_cons_cons, Bool.and_eq_true] at h
                  have := ih h.2
                  simp only [List.length_cons] at this ⊢
                  omega

@[simp] theorem length_flags (words : List (List Char)) (pending : Nat)
    (runs : List (List Char)) : (flags words pending runs).length = runs.length := by
  induction runs generalizing pending with
  | nil => cases pending <;> rfl
  | cons run runs ih =>
      cases pending with
      | zero =>
          rw [flags]
          split <;> simp [ih]
      | succ pending => simp [flags, ih]

/-! ### Case does not matter -/

theorem fold_eq_space_iff (gap : List Char) : fold gap = [' '] ↔ gap = [' '] := by
  constructor
  · intro h
    obtain ⟨c, rfl, hc⟩ := List.map_eq_singleton_iff.1 h
    rcases toLower_eq_or_isAlpha c with heq | ⟨_, halpha⟩
    · rw [← hc, heq]
    · rw [hc] at halpha
      exact absurd halpha (by decide)
  · rintro rfl
    rfl

theorem matchesRuns_map_fold (words runs : List (List Char)) :
    matchesRuns words (runs.map fold) = matchesRuns words runs := by
  induction words generalizing runs with
  | nil => rfl
  | cons word words ih =>
      cases runs with
      | nil => rfl
      | cons run rest =>
          cases words with
          | nil => simp [matchesRuns]
          | cons next words =>
              cases rest with
              | nil => rfl
              | cons gap rest =>
                  have hgap : (fold gap == [' ']) = (gap == [' ']) := by
                    rw [Bool.eq_iff_iff, beq_iff_eq, beq_iff_eq]
                    exact fold_eq_space_iff gap
                  rw [List.map_cons, List.map_cons, matchesRuns_cons_cons, matchesRuns_cons_cons,
                    fold_fold, hgap, ih]

theorem flags_map_fold (words : List (List Char)) (pending : Nat) (runs : List (List Char)) :
    flags words pending (runs.map fold) = flags words pending runs := by
  induction runs generalizing pending with
  | nil => rfl
  | cons run runs ih =>
      cases pending with
      | succ pending => simp [flags, ih]
      | zero =>
          have hmatch := matchesRuns_map_fold words (run :: runs)
          rw [List.map_cons] at hmatch
          simp only [List.map_cons, flags, hmatch, ih]

theorem spreadFlags_map_fold (marks : List Bool) (runs : List (List Char)) :
    spreadFlags marks (runs.map fold) = spreadFlags marks runs := by
  simp [spreadFlags, List.zipWith_map_right]

/-- The places of a keyword do not depend on the case of ASCII letters. -/
theorem coverage_fold (keyword : Keyword) (text : List Char) :
    keyword.coverage (fold text) = keyword.coverage text := by
  rw [coverage, coverage, runs_fold, flags_map_fold, spreadFlags_map_fold]

/-! ### Runs side by side -/

theorem spreadFlags_append {marks moreMarks : List Bool} {runs moreRuns : List (List Char)}
    (h : marks.length = runs.length) :
    spreadFlags (marks ++ moreMarks) (runs ++ moreRuns) =
      spreadFlags marks runs ++ spreadFlags moreMarks moreRuns := by
  rw [spreadFlags, List.zipWith_append h, List.flatten_append]
  rfl

theorem spreadFlags_replicate {runs : List (List Char)} (flag : Bool) :
    spreadFlags (List.replicate runs.length flag) runs =
      List.replicate runs.flatten.length flag := by
  induction runs with
  | nil => rfl
  | cons run runs ih =>
      rw [List.length_cons, List.replicate_succ, List.flatten_cons, List.length_append,
        List.replicate_add, ← ih]
      rfl

theorem length_spreadFlags {marks : List Bool} {runs : List (List Char)}
    (h : marks.length = runs.length) : (spreadFlags marks runs).length = runs.flatten.length := by
  induction runs generalizing marks with
  | nil => simp [spreadFlags]
  | cons run runs ih =>
      cases marks with
      | nil => simp at h
      | cons mark marks =>
          have hlength : marks.length = runs.length := by simpa using h
          have hrest := ih hlength
          simp only [spreadFlags] at hrest
          simp [spreadFlags, hrest]

@[simp] theorem length_coverage (keyword : Keyword) (text : List Char) :
    (keyword.coverage text).length = text.length := by
  rw [coverage, length_spreadFlags (length_flags _ _ _), flatten_runs]

/-- No keyword goes on into the text: it does not start with a word character, nor with a space that
a word character follows. -/
structure Stops (text : List Char) : Prop where
  startsApart : StartsApart text
  afterSpace : ∀ rest, text = ' ' :: rest → StartsApart rest

theorem matchesRuns_append {words : List (List Char)} (hwords : WordShaped words)
    (before : List (List Char)) {text : List Char} (h : Stops text) :
    matchesRuns words (before ++ runs text) = matchesRuns words before := by
  induction words generalizing before with
  | nil => exact absurd rfl hwords.ne_nil
  | cons word words ih =>
      cases before with
      | nil =>
          rw [List.nil_append, matchesRuns_of_startsApart hwords h.startsApart, matchesRuns_nil]
      | cons run before =>
          cases words with
          | nil => rfl
          | cons next words =>
              cases before with
              | cons gap before =>
                  rw [List.cons_append, List.cons_append, matchesRuns_cons_cons,
                    matchesRuns_cons_cons, ih hwords.tail]
              | nil =>
                  -- The first word would be followed by a space and another word in the text.
                  rw [matchesRuns_singleton, List.singleton_append]
                  cases text with
                  | nil => rfl
                  | cons c rest =>
                      rw [runs_cons (h.startsApart c rfl), matchesRuns_cons_cons]
                      by_cases hc : c = ' '
                      · subst hc
                        rw [matchesRuns_of_startsApart hwords.tail (h.afterSpace rest rfl),
                          Bool.and_false]
                      · simp [hc]

theorem flags_append {words : List (List Char)} (hwords : WordShaped words) {pending : Nat}
    {before : List (List Char)} (hpending : pending ≤ before.length) {text : List Char}
    (h : Stops text) :
    flags words pending (before ++ runs text) =
      flags words pending before ++ flags words 0 (runs text) := by
  induction before generalizing pending with
  | nil =>
      obtain rfl : pending = 0 := by simpa using hpending
      rfl
  | cons run before ih =>
      cases pending with
      | succ pending =>
          have hle : pending ≤ before.length := by simpa using hpending
          simp [flags, ih hle]
      | zero =>
          have hmatch := matchesRuns_append hwords (run :: before) h
          rw [List.cons_append] at hmatch ⊢
          rw [flags, flags, hmatch]
          by_cases hfound : matchesRuns words (run :: before) = true
          · have hlength := length_of_matchesRuns hfound
            have hle : 2 * words.length - 2 ≤ before.length := by
              simp only [List.length_cons] at hlength
              omega
            rw [if_pos hfound, if_pos hfound, ih hle, List.cons_append]
          · rw [if_neg hfound, if_neg hfound, ih (Nat.zero_le _), List.cons_append]

/-- Where no keyword goes on, two texts are covered independently. -/
theorem coverage_append {keyword : Keyword} (hkeyword : WordShaped keyword.words)
    (before : List Char) {after : List Char} (h : Stops after) :
    keyword.coverage (before ++ after) = keyword.coverage before ++ keyword.coverage after := by
  rw [coverage, runs_append h.startsApart, flags_append hkeyword (Nat.zero_le _) h,
    spreadFlags_append (length_flags _ _ _)]
  rfl

theorem coverage_cons {keyword : Keyword} (hkeyword : WordShaped keyword.words) {c : Char}
    (hc : isWordChar c = false) (text : List Char) :
    keyword.coverage (c :: text) = false :: keyword.coverage text := by
  have hapart : StartsApart (c :: text) := startsApart_cons hc
  have hmatch := matchesRuns_of_startsApart hkeyword hapart
  rw [runs_cons hc] at hmatch
  rw [coverage, runs_cons hc, flags, if_neg (by simp [hmatch])]
  rfl

end Keyword

end SqlTidy
