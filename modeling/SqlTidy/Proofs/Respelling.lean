/-
Module: SqlTidy.Proofs.Respelling
Purpose: Respelling a keyword in an evenly spaced text changes the case of the characters that the
  keyword covers and nothing else.
Main exports: Casing.recase, Keyword.spell_eq_map_letter, Keyword.coverage_of_matchesRuns,
  Keyword.respell_eq
-/
import SqlTidy.Proofs.Occurrence

namespace SqlTidy

open Text

namespace Keyword

/-! ### The scanner, step by step -/

section RespellAfter

variable {keyword : Keyword} {spell : List Char → List Char}

/-- Where no occurrence with characters starts, a character is copied. -/
theorem respellAfter_copy {before : Option Char} {c : Char} {text : List Char}
    (h : ∀ f found rest, keyword.occurrence? before (c :: text) ≠ some (f :: found, rest))
    (done : List Char) :
    keyword.respellAfter spell before done (c :: text) =
      keyword.respellAfter spell (some c) (c :: done) text := by
  rw [respellAfter]
  split
  · rename_i f found rest heq
    exact absurd heq (h f found rest)
  · rfl

theorem respellAfter_of_some {before : Option Char} {text found rest : List Char}
    (h : keyword.occurrence? before text = some (found, rest)) (hne : found ≠ [])
    (done : List Char) :
    keyword.respellAfter spell before done text =
      keyword.respellAfter spell found.getLast? ((spell found).reverse ++ done) rest := by
  obtain ⟨f, found, rfl⟩ := List.exists_cons_of_ne_nil hne
  cases text with
  | nil =>
      have := append_of_occurrence? h
      simp at this
  | cons c text =>
      rw [respellAfter]
      split
      · rename_i heq
        rw [h] at heq
        simp only [Option.some.injEq, Prod.mk.injEq, List.cons.injEq] at heq
        obtain ⟨⟨rfl, rfl⟩, rfl⟩ := heq
        rfl
      · rename_i hnone
        exact absurd h (hnone f found rest)

/-- What has been written stays in front of what is written next. -/
theorem respellAfter_done (before : Option Char) (done text : List Char) :
    keyword.respellAfter spell before done text =
      done.reverse ++ keyword.respellAfter spell before [] text := by
  induction hlength : text.length using Nat.strongRecOn generalizing before done text with
  | ind n ih =>
      subst hlength
      cases text with
      | nil => simp [respellAfter]
      | cons c text =>
          by_cases hocc : ∃ f found rest,
              keyword.occurrence? before (c :: text) = some (f :: found, rest)
          · obtain ⟨f, found, rest, hocc⟩ := hocc
            have hlt : rest.length < (c :: text).length := by
              have := congrArg List.length (append_of_occurrence? hocc)
              simp only [List.length_append, List.length_cons] at this ⊢
              omega
            rw [respellAfter_of_some hocc (by simp), respellAfter_of_some hocc (by simp),
              ih _ hlt _ _ rest rfl, ih _ hlt _ ((spell (f :: found)).reverse ++ []) rest rfl]
            simp
          · have hcopy : ∀ f found rest,
                keyword.occurrence? before (c :: text) ≠ some (f :: found, rest) :=
              fun f found rest heq => hocc ⟨f, found, rest, heq⟩
            rw [respellAfter_copy hcopy, respellAfter_copy hcopy,
              ih _ (by simp) _ _ text rfl, ih _ (by simp) _ [c] text rfl]
            simp

theorem respellAfter_of_none {before : Option Char} {c : Char} {text : List Char}
    (h : keyword.occurrence? before (c :: text) = none) :
    keyword.respellAfter spell before [] (c :: text) =
      c :: keyword.respellAfter spell (some c) [] text := by
  have hcopy : ∀ f found rest,
      keyword.occurrence? before (c :: text) ≠ some (f :: found, rest) := by
    intro f found rest heq
    rw [h] at heq
    exact absurd heq (by simp)
  rw [respellAfter_copy hcopy, respellAfter_done]
  rfl

/-- A run of word characters is copied to its end once its first character has been copied. -/
theorem respellAfter_inside (keyword : Keyword) (spell : List Char → List Char)
    {before : Option Char} (hbefore : before.any isWordChar = true) {run : List Char}
    (hrun : ∀ c ∈ run, isWordChar c = true) (rest : List Char) :
    ∃ last : Option Char, last.any isWordChar = true ∧
      keyword.respellAfter spell before [] (run ++ rest) =
        run ++ keyword.respellAfter spell last [] rest := by
  induction run generalizing before with
  | nil => exact ⟨before, hbefore, rfl⟩
  | cons c run ih =>
      have hc : isWordChar c = true := hrun c (by simp)
      have hnext : (some c).any isWordChar = true := by simpa using hc
      obtain ⟨last, hlast, heq⟩ := ih hnext fun d hd => hrun d (by simp [hd])
      refine ⟨last, hlast, ?_⟩
      rw [List.cons_append, respellAfter_of_none (occurrence?_inside hbefore hc _), heq]
      rfl

end RespellAfter

/-! ### Spelling and case

The canonical spelling of a word-shaped keyword is in capitals already, so writing it in the place of
an occurrence changes the case of letters and nothing else. -/

theorem mem_joinWords {c : Char} {words : List (List Char)} (h : c ∈ joinWords words) :
    c = ' ' ∨ ∃ word ∈ words, c ∈ word := by
  induction words with
  | nil => simp [joinWords, List.intercalate_nil] at h
  | cons word words ih =>
      cases words with
      | nil =>
          rw [joinWords, List.intercalate_singleton] at h
          exact Or.inr ⟨word, by simp, h⟩
      | cons next words =>
          have hspelling : joinWords (word :: next :: words) =
              word ++ [' '] ++ joinWords (next :: words) := List.intercalate_cons_cons
          rw [hspelling, List.append_assoc, List.mem_append, List.mem_append] at h
          rcases h with hword | hspace | hothers
          · exact Or.inr ⟨word, by simp, hword⟩
          · exact Or.inl (by simpa using hspace)
          · refine (ih hothers).imp_right ?_
            rintro ⟨other, hmem, hc⟩
            exact ⟨other, List.mem_cons_of_mem _ hmem, hc⟩

theorem toUpper_of_isCapital {c : Char} (h : isCapitalWordChar c = true) : c.toUpper = c := by
  apply Char.toUpper_eq_of_not_isLower
  intro hlower
  simp only [isCapitalWordChar, Bool.or_eq_true] at h
  rcases h with (hupper | hdigit) | hscore
  · exact Char.not_isLower_of_isUpper hupper hlower
  · have hbounds := isDigit_bounds hdigit
    have halpha := isAlpha_bounds (c := c) (by simp [Char.isAlpha, hlower])
    omega
  · obtain rfl : c = '_' := by simpa using hscore
    exact absurd hlower (by decide)

theorem lt_bound_of_isWordChar {c : Char} (h : isWordChar c = true) : c.toNat < 0x80 := by
  simp only [isWordChar, Char.isAlphanum, Bool.or_eq_true, beq_iff_eq] at h
  rcases h with (halpha | hdigit) | rfl
  · have hbounds := isAlpha_bounds halpha
    omega
  · have hbounds := isDigit_bounds hdigit
    omega
  · decide

/-- A character of the spelling is a space, or a capital word character. -/
theorem mem_spelling {keyword : Keyword} (hkeyword : WordShaped keyword.words) {c : Char}
    (h : c ∈ keyword.spelling) : c = ' ' ∨ isCapitalWordChar c = true := by
  refine (mem_joinWords h).imp_right ?_
  rintro ⟨word, hword, hc⟩
  exact hkeyword.isCapital word hword c hc

theorem map_toUpper_spelling {keyword : Keyword} (hkeyword : WordShaped keyword.words) :
    keyword.spelling.map Char.toUpper = keyword.spelling := by
  have hfixed : ∀ c ∈ keyword.spelling, c.toUpper = id c := by
    intro c hc
    rcases mem_spelling hkeyword hc with rfl | hcapital
    · decide
    · exact toUpper_of_isCapital hcapital
  rw [List.map_congr_left hfixed, List.map_id]

theorem isAscii_spelling {keyword : Keyword} (hkeyword : WordShaped keyword.words) :
    isAscii keyword.spelling = true := by
  rw [isAscii, List.all_eq_true]
  intro c hc
  rw [decide_eq_true_eq]
  rcases mem_spelling hkeyword hc with rfl | hcapital
  · decide
  · exact lt_bound_of_isWordChar (isWordChar_of_isCapital hcapital)

end Keyword

theorem Text.lowerAfter_eq_fold (before : List Char) {text : List Char}
    (h : isAscii text = true) : lowerAfter before text = fold text := by
  induction text generalizing before with
  | nil => rfl
  | cons c text ih =>
      simp only [isAscii, List.all_cons, Bool.and_eq_true, decide_eq_true_eq] at h
      rw [lowerAfter, ih _ h.2, lowerChar, if_pos h.1]
      rfl

namespace Keyword

/-- Under every policy an occurrence of a word-shaped keyword is spelled letter by letter. -/
theorem spell_eq_map_letter {keyword : Keyword} (hkeyword : WordShaped keyword.words)
    (casing : Casing) {found : List Char} (h : fold found = fold keyword.spelling) :
    casing.spell keyword found = found.map casing.letter := by
  cases casing with
  | keep => exact (List.map_id found).symm
  | lower =>
      calc Text.lower keyword.spelling
          = fold keyword.spelling := lowerAfter_eq_fold [] (isAscii_spelling hkeyword)
        _ = fold found := h.symm
  | upper =>
      -- Capital spelling does not see whether a letter was small before.
      have hupper : ∀ text : List Char, (fold text).map Char.toUpper = text.map Char.toUpper := by
        intro text
        simp [fold]
      calc keyword.spelling
          = keyword.spelling.map Char.toUpper := (map_toUpper_spelling hkeyword).symm
        _ = (fold keyword.spelling).map Char.toUpper := (hupper _).symm
        _ = (fold found).map Char.toUpper := by rw [h]
        _ = found.map Char.toUpper := hupper found

/-! ### Coverage, run by run -/

theorem flags_pending (words : List (List Char)) (before after : List (List Char)) :
    flags words before.length (before ++ after) =
      List.replicate before.length true ++ flags words 0 after := by
  induction before with
  | nil => rfl
  | cons run before ih =>
      rw [List.length_cons, List.cons_append, flags, ih, List.replicate_succ]
      rfl

/-- Where the runs match, the keyword covers what it splits off. -/
theorem coverage_of_matchesRuns {keyword : Keyword} {found rest : List Char}
    (hrest : StartsApart rest) (hlength : (runs found).length + 1 = 2 * keyword.words.length)
    (h : matchesRuns keyword.words (runs (found ++ rest)) = true) :
    keyword.coverage (found ++ rest) =
      List.replicate found.length true ++ keyword.coverage rest := by
  have hflags : flags keyword.words 0 (runs found ++ runs rest) =
      List.replicate (runs found).length true ++ flags keyword.words 0 (runs rest) := by
    rw [runs_append hrest] at h
    cases hfound : runs found with
    | nil =>
        rw [hfound] at hlength
        simp only [List.length_nil] at hlength
        omega
    | cons run others =>
        rw [hfound] at h hlength
        have hpending : 2 * keyword.words.length - 2 = others.length := by
          simp only [List.length_cons] at hlength
          omega
        rw [List.cons_append] at h ⊢
        rw [flags, if_pos h, hpending, flags_pending, List.length_cons, List.replicate_succ]
        rfl
  rw [coverage, runs_append hrest, hflags, spreadFlags_append (by simp), spreadFlags_replicate,
    flatten_runs]
  rfl

/-- A run at which the runs do not match is not covered. -/
theorem coverage_run_append {keyword : Keyword} {run rest : List Char} (hne : run ≠ [])
    (hrun : ∀ c ∈ run, isWordChar c = true) (hrest : StartsApart rest)
    (h : matchesRuns keyword.words (runs (run ++ rest)) = false) :
    keyword.coverage (run ++ rest) =
      List.replicate run.length false ++ keyword.coverage rest := by
  rw [runs_run_append hne hrun hrest] at h
  rw [coverage, runs_run_append hne hrun hrest, flags, if_neg (by simp [h])]
  rfl

end Keyword

/-- The spelling of a character that may belong to a place of a keyword. -/
def Casing.recase (casing : Casing) (marked : Char × Bool) : Char :=
  if marked.2 then casing.letter marked.1 else marked.1

namespace Keyword

theorem map_recase_replicate_true (casing : Casing) (text : List Char) :
    (text.zip (List.replicate text.length true)).map casing.recase = text.map casing.letter := by
  induction text with
  | nil => rfl
  | cons c text ih =>
      rw [List.length_cons, List.replicate_succ, List.zip_cons_cons, List.map_cons, ih]
      rfl

theorem map_recase_replicate_false (casing : Casing) (text : List Char) :
    (text.zip (List.replicate text.length false)).map casing.recase = text := by
  induction text with
  | nil => rfl
  | cons c text ih =>
      rw [List.length_cons, List.replicate_succ, List.zip_cons_cons, List.map_cons, ih]
      rfl

theorem map_recase_append (casing : Casing) {text : List Char} {marks : List Bool}
    (h : text.length = marks.length) (more : List Char) (moreMarks : List Bool) :
    ((text ++ more).zip (marks ++ moreMarks)).map casing.recase =
      (text.zip marks).map casing.recase ++ (more.zip moreMarks).map casing.recase := by
  rw [List.zip_append h, List.map_append]

/-- Respelling an evenly spaced text changes the case of the characters that the keyword covers and
nothing else.  The induction is on the length of what is left: the scan goes on after an occurrence,
after a run without one, or after a character that is no word character, and in each case the
boundary before what is left is known. -/
theorem respellAfter_eq {keyword : Keyword} (hkeyword : WordShaped keyword.words)
    (casing : Casing) {before : Option Char} {text : List Char} (heven : EvenlySpaced text)
    (hbefore : before.any isWordChar = true → StartsApart text) :
    keyword.respellAfter (casing.spell keyword) before [] text =
      (text.zip (keyword.coverage text)).map casing.recase := by
  induction hlength : text.length using Nat.strongRecOn generalizing before text with
  | ind n ih =>
      subst hlength
      rcases word_cases text with rfl | ⟨c, rest, rfl, hc⟩ | ⟨run, rest, rfl, hne, hrun, hrest⟩
      · rw [respellAfter]
        rfl
      · -- No keyword starts with this character.
        have hapart : StartsApart (c :: rest) := startsApart_cons hc
        have hmatch := matchesRuns_of_startsApart hkeyword hapart
        have hnone := occurrence?_of_not_matchesRuns hkeyword before heven hmatch
        have hnext : (some c).any isWordChar = true → StartsApart rest := by
          intro hword
          rw [Option.any_some, hc] at hword
          exact absurd hword (by simp)
        rw [respellAfter_of_none hnone, ih _ (by simp) heven.2 hnext rfl, coverage_cons hkeyword hc,
          List.zip_cons_cons, List.map_cons]
        rfl
      · obtain ⟨c, run, rfl⟩ := List.exists_cons_of_ne_nil hne
        have hc : isWordChar c = true := hrun c (by simp)
        have hoff : before.any isWordChar = false := by
          apply Bool.eq_false_iff.2
          intro hword
          have := hbefore hword c rfl
          rw [hc] at this
          exact absurd this (by simp)
        cases hmatch : matchesRuns keyword.words (runs (c :: run ++ rest)) with
        | true =>
            obtain ⟨found, left, hocc, hleft, hlength, hfold⟩ :=
              occurrence?_of_matchesRuns hkeyword hoff heven hmatch
            have hsplit := append_of_occurrence? hocc
            have hfound : found ≠ [] := by
              rintro rfl
              simp only [runs_nil, List.length_nil] at hlength
              omega
            rw [respellAfter_of_some hocc hfound, respellAfter_done]
            rw [← hsplit] at heven hmatch ih ⊢
            have hlt : left.length < (found ++ left).length := by
              have := List.length_pos_iff.2 hfound
              simp only [List.length_append]
              omega
            rw [ih _ hlt heven.of_append_right (fun _ => hleft) rfl,
              coverage_of_matchesRuns hleft hlength hmatch,
              map_recase_append casing (by simp), map_recase_replicate_true,
              spell_eq_map_letter hkeyword casing hfold]
            simp
        | false =>
            have hnone := occurrence?_of_not_matchesRuns hkeyword before heven hmatch
            have hnext : (some c).any isWordChar = true := by simpa using hc
            have htail : ∀ d ∈ run, isWordChar d = true := fun d hd => hrun d (by simp [hd])
            obtain ⟨last, _, hcopy⟩ :=
              respellAfter_inside keyword (casing.spell keyword) hnext htail rest
            have hlt : rest.length < (c :: run ++ rest).length := by
              simp only [List.length_append, List.length_cons]
              omega
            rw [List.cons_append] at hnone
            calc keyword.respellAfter (casing.spell keyword) before [] (c :: run ++ rest)
                = c :: run ++ (rest.zip (keyword.coverage rest)).map casing.recase := by
                  rw [List.cons_append, respellAfter_of_none hnone, hcopy,
                    ih _ hlt heven.of_append_right (fun _ => hrest) rfl]
                  rfl
              _ = ((c :: run ++ rest).zip (keyword.coverage (c :: run ++ rest))).map
                    casing.recase := by
                  rw [coverage_run_append hne hrun hrest hmatch,
                    map_recase_append casing (by simp), map_recase_replicate_false]

/-- Respelling changes the case of the covered characters and nothing else. -/
theorem respell_eq {keyword : Keyword} (hkeyword : WordShaped keyword.words) (casing : Casing)
    {text : List Char} (heven : EvenlySpaced text) :
    keyword.respell (casing.spell keyword) text =
      (text.zip (keyword.coverage text)).map casing.recase := by
  apply respellAfter_eq hkeyword casing heven
  simp

end Keyword

end SqlTidy
