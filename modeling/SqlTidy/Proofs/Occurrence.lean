/-
Module: SqlTidy.Proofs.Occurrence
Purpose: A keyword occurs in an evenly spaced text exactly where the runs of the text match it.
Main exports: splitWords?_of_matchesRuns, occurrence?_of_matchesRuns, occurrence?_of_not_matchesRuns,
  occurrence?_inside
-/
import SqlTidy.Proofs.Runs

namespace SqlTidy

open Text

/-!
The scanner compares a keyword with the text at every character; the runs of a text say where it can
succeed.  Inside a run of word characters there is no boundary, and from the start of a run the scan
succeeds exactly if the runs match: a word that ends before its run does is stopped by the boundary
after it, and in an evenly spaced text the gap between two words is one space.
-/

namespace Keyword

theorem isWordChar_space : isWordChar ' ' = false := by decide

theorem isWordChar_of_isBlank {c : Char} (h : isBlank c = true) : isWordChar c = false := by
  apply Bool.eq_false_iff.2
  intro hword
  simp only [isWordChar, Char.isAlphanum, Bool.or_eq_true, beq_iff_eq] at hword
  rcases hword with (halpha | hdigit) | rfl
  · rw [not_blank_of_isAlpha halpha] at h
    exact absurd h (by simp)
  · have hbounds := isDigit_bounds hdigit
    simp only [isBlank, Bool.or_eq_true, Bool.and_eq_true, decide_eq_true_eq, beq_iff_eq] at h
    omega
  · exact absurd h (by decide)

theorem isBlank_of_isGapChar {c : Char} (h : isGapChar c = true) : isBlank c = true := by
  simp only [isGapChar, Bool.or_eq_true, Bool.and_eq_true, decide_eq_true_eq, beq_iff_eq] at h
  rcases h with rfl | h
  · rfl
  · simp [isBlank, h.1, h.2]

/-! ### Splitting off words -/

/-- A word that a text starts with is the word up to case. -/
theorem fold_of_splitWord? {word text found rest : List Char}
    (h : splitWord? word text = some (found, rest)) : fold found = fold word := by
  induction word generalizing text found with
  | nil =>
      simp only [splitWord?, Option.some.injEq, Prod.mk.injEq] at h
      rw [← h.1]
  | cons w word ih =>
      cases text with
      | nil => simp [splitWord?] at h
      | cons c text =>
          simp only [splitWord?] at h
          split at h
          · rename_i hsame
            obtain ⟨⟨a, b⟩, hsplit, heq⟩ := Option.map_eq_some_iff.1 h
            simp only [Prod.mk.injEq] at heq
            obtain ⟨rfl, rfl⟩ := heq
            have hlower : w.toLower = c.toLower := by simpa [sameLetter] using hsame
            rw [fold_cons, fold_cons, ih hsplit, hlower]
          · simp at h

/-- A word splits off the run that it is. -/
theorem splitWord?_of_fold_eq {word run : List Char} (h : fold word = fold run)
    (rest : List Char) : splitWord? word (run ++ rest) = some (run, rest) := by
  induction word generalizing run with
  | nil =>
      obtain rfl : run = [] := by simpa [fold] using h.symm
      rfl
  | cons w word ih =>
      cases run with
      | nil => simp at h
      | cons c run =>
          simp only [fold_cons, List.cons.injEq] at h
          simp [splitWord?, sameLetter, h.1, ih h.2]

/-- A word that splits off anything else leaves a word character next to it. -/
theorem isWordChar_of_splitWord? {word run rest found left : List Char}
    (hword : ∀ c ∈ word, isWordChar c = true) (hrun : ∀ c ∈ run, isWordChar c = true)
    (hrest : StartsApart rest) (hne : fold word ≠ fold run)
    (h : splitWord? word (run ++ rest) = some (found, left)) :
    ∃ c ∈ left.head?, isWordChar c = true := by
  induction word generalizing run found with
  | nil =>
      simp only [splitWord?, Option.some.injEq, Prod.mk.injEq] at h
      cases run with
      | nil => exact absurd rfl hne
      | cons c run => exact ⟨c, by simp [← h.2], hrun c (by simp)⟩
  | cons w word ih =>
      have hw : isWordChar w = true := hword w (by simp)
      cases run with
      | nil =>
          -- The word would have to go on with a character that is no word character.
          cases rest with
          | nil => simp [splitWord?] at h
          | cons c rest =>
              have hc : isWordChar c = false := hrest c rfl
              have hsame : sameLetter w c = false := by
                apply Bool.eq_false_iff.2
                intro hsame
                have hlower : w.toLower = c.toLower := by simpa [sameLetter] using hsame
                rw [apply_eq_of_toLower_eq isWordChar_toLower hlower, hc] at hw
                exact absurd hw (by simp)
              simp [splitWord?, hsame] at h
      | cons c run =>
          simp only [List.cons_append, splitWord?] at h
          split at h
          · rename_i hsame
            obtain ⟨⟨a, b⟩, hsplit, heq⟩ := Option.map_eq_some_iff.1 h
            simp only [Prod.mk.injEq] at heq
            obtain ⟨rfl, rfl⟩ := heq
            have hlower : w.toLower = c.toLower := by simpa [sameLetter] using hsame
            refine ih (fun x hx => hword x (by simp [hx])) (fun x hx => hrun x (by simp [hx])) ?_
              hsplit
            intro hfold
            exact hne (by rw [fold_cons, fold_cons, hlower, hfold])
          · simp at h

theorem splitWords?_cons_cons (word next : List Char) (words : List (List Char))
    (text : List Char) :
    splitWords? (word :: next :: words) text =
      match splitWord? word text with
      | none => none
      | some (first, text) =>
          match text.takeWhile isGapChar with
          | [] => none
          | gap =>
              (splitWords? (next :: words) (text.dropWhile isGapChar)).map fun (found, rest) =>
                (first ++ gap ++ found, rest) := rfl

/-- Two or more words split off as the first one, a gap and the others. -/
theorem splitWords?_cons_cons_eq_some {word next : List Char} {words : List (List Char)}
    {text found rest : List Char}
    (h : splitWords? (word :: next :: words) text = some (found, rest)) :
    ∃ first after others, splitWord? word text = some (first, after) ∧
      after.takeWhile isGapChar ≠ [] ∧
      splitWords? (next :: words) (after.dropWhile isGapChar) = some (others, rest) ∧
      found = first ++ after.takeWhile isGapChar ++ others := by
  rw [splitWords?_cons_cons] at h
  split at h
  · simp at h
  · rename_i first after hfirst
    split at h
    · simp at h
    · rename_i hgap
      obtain ⟨⟨others, left⟩, hothers, heq⟩ := Option.map_eq_some_iff.1 h
      simp only [Prod.mk.injEq] at heq
      obtain ⟨rfl, rfl⟩ := heq
      exact ⟨first, after, others, hfirst, hgap, hothers, rfl⟩

/-- What is split off ends with a word character. -/
theorem isWordChar_of_getLast?_splitWords? {words : List (List Char)} (hwords : WordShaped words)
    {text found rest : List Char} (h : splitWords? words text = some (found, rest)) :
    ∃ c, found.getLast? = some c ∧ isWordChar c = true := by
  induction words generalizing text found with
  | nil => simp [splitWords?] at h
  | cons word words ih =>
      cases words with
      | nil =>
          have hfold : fold word = fold found := (fold_of_splitWord? h).symm
          have hchars := isWordChar_of_fold_eq hfold (hwords.isWordChar (by simp))
          have hne : found ≠ [] := by
            rintro rfl
            exact hwords.word_ne_nil word (by simp) (by simpa [fold] using hfold)
          obtain ⟨c, hc⟩ := List.getLast?_isSome.2 hne |> Option.isSome_iff_exists.1
          exact ⟨c, hc, hchars c (List.mem_of_getLast? hc)⟩
      | cons next words =>
          obtain ⟨first, after, others, _, _, hothers, rfl⟩ := splitWords?_cons_cons_eq_some h
          obtain ⟨c, hc, hword⟩ := ih hwords.tail hothers
          exact ⟨c, by rw [List.getLast?_append, hc]; rfl, hword⟩

/-! ### The scan and the runs -/

/-- In an evenly spaced text a gap is one space. -/
theorem gap_of_evenlySpaced {rest : List Char} (heven : EvenlySpaced (' ' :: rest)) :
    (' ' :: rest).takeWhile isGapChar = [' '] ∧ (' ' :: rest).dropWhile isGapChar = rest := by
  have hspace : isGapChar ' ' = true := by decide
  cases rest with
  | nil => exact ⟨rfl, rfl⟩
  | cons d rest =>
      have hblank : isBlank d = false := (heven.1 rfl).2 d rfl
      have hd : ¬isGapChar d = true := by
        intro hgap
        rw [isBlank_of_isGapChar hgap] at hblank
        exact absurd hblank (by simp)
      constructor
      · rw [List.takeWhile_cons_of_pos hspace, List.takeWhile_cons_of_neg hd]
      · rw [List.dropWhile_cons_of_pos hspace, List.dropWhile_cons_of_neg hd]

/-- Where the runs match, a text starts with a run that is the first word. -/
theorem exists_run_of_matchesRuns {word : List Char} {words : List (List Char)}
    (hwords : WordShaped (word :: words)) {text : List Char}
    (h : matchesRuns (word :: words) (runs text) = true) :
    ∃ run rest, text = run ++ rest ∧ run ≠ [] ∧ (∀ c ∈ run, isWordChar c = true) ∧
      StartsApart rest ∧ fold word = fold run ∧ runs text = run :: runs rest := by
  rcases word_cases text with rfl | ⟨c, rest, rfl, hc⟩ | ⟨run, rest, rfl, hne, hrun, hrest⟩
  · simp at h
  · rw [matchesRuns_of_startsApart hwords (startsApart_cons hc)] at h
    exact absurd h (by simp)
  · have hruns := runs_run_append hne hrun hrest
    rw [hruns] at h
    exact ⟨run, rest, rfl, hne, hrun, hrest, fold_eq_of_matchesRuns h, hruns⟩

/-- Where the runs match, the words split off.  What is left does not start with a word character,
and what is split off is the spelling of the keyword up to case. -/
theorem splitWords?_of_matchesRuns {words : List (List Char)} (hwords : WordShaped words)
    {text : List Char} (heven : EvenlySpaced text) (h : matchesRuns words (runs text) = true) :
    ∃ found rest, splitWords? words text = some (found, rest) ∧ StartsApart rest ∧
      (runs found).length + 1 = 2 * words.length ∧ fold found = fold (joinWords words) := by
  induction words generalizing text with
  | nil => exact absurd rfl hwords.ne_nil
  | cons word words ih =>
      obtain ⟨run, rest, rfl, hne, hrun, hrest, hfold, hruns⟩ := exists_run_of_matchesRuns hwords h
      have hsplit := splitWord?_of_fold_eq hfold rest
      cases words with
      | nil =>
          have hsingle : runs run = [run] := by
            simpa using runs_run_append hne hrun startsApart_nil
          refine ⟨run, rest, hsplit, hrest, by simp [hsingle], ?_⟩
          rw [joinWords, List.intercalate_singleton, hfold]
      | cons next words =>
          -- After the first word there is a space, and the other words match after it.
          rw [hruns] at h
          cases rest with
          | nil => simp [matchesRuns_singleton] at h
          | cons c rest =>
              have hc : isWordChar c = false := hrest c rfl
              rw [runs_cons hc] at h
              simp only [matchesRuns_cons_cons, Bool.and_eq_true, beq_iff_eq, List.cons.injEq,
                and_true] at h
              obtain ⟨⟨_, rfl⟩, hothers⟩ := h
              have heven' : EvenlySpaced (' ' :: rest) := heven.of_append_right
              obtain ⟨others, left, hsplits, hleft, hlength, hjoin⟩ :=
                ih hwords.tail heven'.2 hothers
              obtain ⟨hgap, hdrop⟩ := gap_of_evenlySpaced heven'
              refine ⟨run ++ [' '] ++ others, left, ?_, hleft, ?_, ?_⟩
              · simp [splitWords?_cons_cons, hsplit, hgap, hdrop, hsplits]
              · have hruns' : runs (run ++ ' ' :: others) = run :: [' '] :: runs others := by
                  rw [runs_run_append hne hrun (startsApart_cons hc), runs_cons hc]
                rw [List.append_assoc, List.singleton_append, hruns']
                simp only [List.length_cons] at hlength ⊢
                omega
              · have hspelling : joinWords (word :: next :: words) =
                    word ++ [' '] ++ joinWords (next :: words) :=
                  List.intercalate_cons_cons
                rw [hspelling]
                simp [hjoin, hfold]

/-- Where the runs do not match, words that split off leave a word character next to them. -/
theorem isWordChar_of_not_matchesRuns {words : List (List Char)} (hwords : WordShaped words)
    {text : List Char} (heven : EvenlySpaced text) (h : matchesRuns words (runs text) = false)
    {found rest : List Char} (hsplits : splitWords? words text = some (found, rest)) :
    ∃ c ∈ rest.head?, isWordChar c = true := by
  induction words generalizing text found with
  | nil => simp [splitWords?] at hsplits
  | cons word words ih =>
      have hword := hwords.isWordChar (List.mem_cons_self (a := word))
      -- The text as its first run of word characters, which may be empty, and the rest.
      obtain ⟨run, after, rfl, hrun, hafter, hruns⟩ : ∃ run after, text = run ++ after ∧
          (∀ c ∈ run, isWordChar c = true) ∧ StartsApart after ∧
          (run ≠ [] → runs text = run :: runs after) := by
        rcases word_cases text with rfl | ⟨c, rest, rfl, hc⟩ | ⟨run, rest, rfl, hne, hrun, hrest⟩
        · exact ⟨[], [], rfl, by simp, startsApart_nil, by simp⟩
        · exact ⟨[], c :: rest, rfl, by simp, startsApart_cons hc, by simp⟩
        · exact ⟨run, rest, rfl, hrun, hrest, fun _ => runs_run_append hne hrun hrest⟩
      by_cases hfold : fold word = fold run
      · have hne : run ≠ [] := by
          rintro rfl
          exact hwords.word_ne_nil word (by simp) (by simpa [fold] using hfold)
        rw [hruns hne] at h
        cases words with
        | nil => simp [matchesRuns, hfold] at h
        | cons next words =>
            obtain ⟨first, left, others, hfirst, hgap, hothers, rfl⟩ :=
              splitWords?_cons_cons_eq_some hsplits
            rw [splitWord?_of_fold_eq hfold] at hfirst
            obtain ⟨rfl, rfl⟩ : run = first ∧ after = left := by simpa using hfirst
            -- The gap is one space, since the text is evenly spaced.
            cases after with
            | nil => exact absurd rfl hgap
            | cons c after =>
                have hc : isGapChar c = true := by
                  by_contra hc
                  exact hgap (List.takeWhile_cons_of_neg hc)
                have heven' : EvenlySpaced (c :: after) := heven.of_append_right
                obtain rfl : c = ' ' := (heven'.1 (isBlank_of_isGapChar hc)).1
                rw [(gap_of_evenlySpaced heven').2] at hothers
                rw [runs_cons isWordChar_space, matchesRuns_cons_cons] at h
                exact ih hwords.tail heven'.2 (by simpa [hfold] using h) hothers
      · cases words with
        | nil => exact isWordChar_of_splitWord? hword hrun hafter hfold hsplits
        | cons next words =>
            obtain ⟨first, left, others, hfirst, hgap, _, _⟩ :=
              splitWords?_cons_cons_eq_some hsplits
            obtain ⟨c, hc, hwordChar⟩ := isWordChar_of_splitWord? hword hrun hafter hfold hfirst
            -- A word character next to the first word leaves no gap after it.
            cases left with
            | nil => simp at hc
            | cons d left =>
                obtain rfl : d = c := by simpa using hc
                refine absurd (List.takeWhile_cons_of_neg ?_) hgap
                intro hgapChar
                rw [isWordChar_of_isBlank (isBlank_of_isGapChar hgapChar)] at hwordChar
                exact absurd hwordChar (by simp)

/-! ### Occurrences -/

theorem any_isWordChar_eq_false {text : List Char} (h : StartsApart text) :
    text.head?.any isWordChar = false := by
  cases text with
  | nil => rfl
  | cons c text => exact h c rfl

/-- Where the runs match, the keyword occurs. -/
theorem occurrence?_of_matchesRuns {keyword : Keyword} (hkeyword : WordShaped keyword.words)
    {before : Option Char} (hbefore : before.any isWordChar = false) {text : List Char}
    (heven : EvenlySpaced text) (h : matchesRuns keyword.words (runs text) = true) :
    ∃ found rest, keyword.occurrence? before text = some (found, rest) ∧ StartsApart rest ∧
      (runs found).length + 1 = 2 * keyword.words.length ∧
      fold found = fold keyword.spelling := by
  obtain ⟨found, rest, hsplits, hrest, hlength, hfold⟩ :=
    splitWords?_of_matchesRuns hkeyword heven h
  refine ⟨found, rest, ?_, hrest, hlength, hfold⟩
  have hhead : text.head?.any isWordChar = true := by
    obtain ⟨word, words, hwords⟩ := List.exists_cons_of_ne_nil hkeyword.ne_nil
    rw [hwords] at h hkeyword
    obtain ⟨run, after, rfl, hne, hrun, _⟩ := exists_run_of_matchesRuns hkeyword h
    obtain ⟨c, run, rfl⟩ := List.exists_cons_of_ne_nil hne
    exact hrun c (by simp)
  obtain ⟨c, hlast, hword⟩ := isWordChar_of_getLast?_splitWords? hkeyword hsplits
  have hstart : isBoundary before text.head? = true := by
    rw [isBoundary, hbefore, hhead]
    rfl
  have hend : isBoundary found.getLast? rest.head? = true := by
    rw [isBoundary, hlast, Option.any_some, hword, any_isWordChar_eq_false hrest]
    rfl
  simp [occurrence?, hsplits, hstart, hend]

/-- Where the runs do not match, the keyword does not occur. -/
theorem occurrence?_of_not_matchesRuns {keyword : Keyword} (hkeyword : WordShaped keyword.words)
    (before : Option Char) {text : List Char} (heven : EvenlySpaced text)
    (h : matchesRuns keyword.words (runs text) = false) :
    keyword.occurrence? before text = none := by
  cases hsplits : splitWords? keyword.words text with
  | none => simp [occurrence?, hsplits]
  | some split =>
      obtain ⟨found, rest⟩ := split
      obtain ⟨c, hlast, hword⟩ := isWordChar_of_getLast?_splitWords? hkeyword hsplits
      obtain ⟨d, hhead, hword'⟩ := isWordChar_of_not_matchesRuns hkeyword heven h hsplits
      have hend : isBoundary found.getLast? rest.head? = false := by
        rw [isBoundary, hlast, Option.mem_def.1 hhead, Option.any_some, Option.any_some, hword,
          hword']
        rfl
      simp [occurrence?, hsplits, hend]

/-- Between two word characters no keyword starts. -/
theorem occurrence?_inside {keyword : Keyword} {before : Option Char} {c : Char}
    (hbefore : before.any isWordChar = true) (hc : isWordChar c = true) (text : List Char) :
    keyword.occurrence? before (c :: text) = none := by
  have hstart : isBoundary before (some c) = false := by
    rw [isBoundary, hbefore, Option.any_some, hc]
    rfl
  rw [occurrence?]
  split
  · simp [hstart]
  · rfl

end Keyword

end SqlTidy
