/-
Module: SqlTidy.Proofs.Spacing
Purpose: What squeezing and trimming do to a text, and the shape of a collapsed text.
Main exports: EvenlySpaced, evenlySpaced_collapse, divide_trimEnd, divide_collapse, exists_trim,
  joinWords_words
-/
import SqlTidy.Proofs.Division
import SqlTidy.Text.Blank

namespace SqlTidy.Text

/-!
A collapsed text is evenly spaced and has no blank at either end.  Collapsing changes only blanks, so
it changes no division at blanks, and an evenly spaced text without blanks at its ends is its words
with one space between neighbours.
-/

/-- The only blanks are single spaces. -/
def EvenlySpaced : List Char → Prop
  | [] => True
  | c :: rest =>
      (isBlank c = true → c = ' ' ∧ ∀ d ∈ rest.head?, isBlank d = false) ∧ EvenlySpaced rest

theorem EvenlySpaced.of_append_right {before after : List Char}
    (h : EvenlySpaced (before ++ after)) : EvenlySpaced after := by
  induction before with
  | nil => exact h
  | cons c before ih => exact ih h.2

theorem EvenlySpaced.of_append_left {before after : List Char}
    (h : EvenlySpaced (before ++ after)) : EvenlySpaced before := by
  induction before with
  | nil => exact trivial
  | cons c before ih =>
      constructor
      · intro hc
        constructor
        · exact (h.1 hc).1
        · intro d hd
          have hhead : (before ++ after).head? = some d := by
            rw [List.head?_append, Option.mem_def.1 hd]
            rfl
          exact (h.1 hc).2 d hhead
      · exact ih h.2

/-- Texts around a character that is not blank may be evenly spaced each for itself. -/
theorem EvenlySpaced.append_cons {before after : List Char} {c : Char}
    (hbefore : EvenlySpaced before) (hc : isBlank c = false) (hafter : EvenlySpaced after) :
    EvenlySpaced (before ++ c :: after) := by
  induction before with
  | nil => exact ⟨fun hblank => absurd hblank (by simp [hc]), hafter⟩
  | cons d before ih =>
      refine ⟨fun hd => ⟨(hbefore.1 hd).1, ?_⟩, ih hbefore.2⟩
      cases before with
      | nil => simpa using hc
      | cons e before => simpa using (hbefore.1 hd).2

/-! ### Squeezing -/

theorem squeeze_cons_blank {c : Char} (hc : isBlank c = true) (text : List Char) :
    (∃ rest, squeeze text = ' ' :: rest ∧ squeeze (c :: text) = squeeze text) ∨
      (∀ rest, squeeze text ≠ ' ' :: rest) ∧ squeeze (c :: text) = ' ' :: squeeze text := by
  simp only [squeeze, List.foldr_cons, hc, if_true]
  split
  · rename_i rest heq
    exact Or.inl ⟨rest, heq, rfl⟩
  · rename_i hne
    exact Or.inr ⟨hne, rfl⟩

theorem squeeze_cons_of_not_blank {c : Char} (hc : isBlank c = false) (text : List Char) :
    squeeze (c :: text) = c :: squeeze text := by
  simp [squeeze, hc]

theorem evenlySpaced_squeeze (text : List Char) : EvenlySpaced (squeeze text) := by
  induction text with
  | nil => exact trivial
  | cons c text ih =>
      by_cases hc : isBlank c = true
      · rcases squeeze_cons_blank hc text with ⟨rest, _, heq⟩ | ⟨hne, heq⟩
        · rw [heq]
          exact ih
        · rw [heq]
          refine ⟨fun _ => ⟨rfl, ?_⟩, ih⟩
          -- A blank at the start of the squeezed rest would be a space.
          cases hrest : squeeze text with
          | nil => simp
          | cons d rest =>
              intro e he
              obtain rfl : d = e := by simpa using he
              rw [hrest] at ih
              apply Bool.eq_false_iff.2
              intro hblank
              have hspace : d = ' ' := (ih.1 hblank).1
              exact hne rest (by rw [hrest, hspace])
      · have hc : isBlank c = false := by simpa using hc
        rw [squeeze_cons_of_not_blank hc]
        exact ⟨fun h => absurd h (by simp [hc]), ih⟩

/-- Squeezing leaves every state of a division at blanks as it is. -/
theorem foldr_read_squeeze (standsAlone : Char → Bool) (text : List Char) :
    (squeeze text).foldr (OpenRun.read isBlank standsAlone) ⟨[], []⟩ =
      text.foldr (OpenRun.read isBlank standsAlone) ⟨[], []⟩ := by
  induction text with
  | nil => rfl
  | cons c text ih =>
      have hspace : isBlank ' ' = true := rfl
      by_cases hc : isBlank c = true
      · rcases squeeze_cons_blank hc text with ⟨rest, hrest, heq⟩ | ⟨_, heq⟩
        · rw [heq, List.foldr_cons, ← ih, hrest]
          simp [OpenRun.read, hc, hspace, OpenRun.close]
        · rw [heq, List.foldr_cons, List.foldr_cons, ih]
          simp [OpenRun.read, hc, hspace]
      · have hc : isBlank c = false := by simpa using hc
        rw [squeeze_cons_of_not_blank hc, List.foldr_cons, List.foldr_cons, ih]

/-! ### Trimming -/

theorem exists_trimEnd (text : List Char) :
    ∃ tail, (∀ c ∈ tail, isBlank c = true) ∧ text = trimEnd text ++ tail := by
  refine ⟨(text.reverse.takeWhile isBlank).reverse, ?_, ?_⟩
  · intro c hc
    exact List.all_eq_true.1 List.all_takeWhile c (List.mem_reverse.1 hc)
  · rw [trimEnd, ← List.reverse_append, List.takeWhile_append_dropWhile, List.reverse_reverse]

theorem exists_trim (text : List Char) :
    ∃ lead tail, (∀ c ∈ lead, isBlank c = true) ∧ (∀ c ∈ tail, isBlank c = true) ∧
      text = lead ++ (trim text ++ tail) := by
  obtain ⟨tail, htail, heq⟩ := exists_trimEnd (text.dropWhile isBlank)
  refine ⟨text.takeWhile isBlank, tail, ?_, htail, ?_⟩
  · intro c hc
    exact List.all_eq_true.1 List.all_takeWhile c hc
  · rw [trim, ← heq, List.takeWhile_append_dropWhile]

theorem not_blank_of_getLast?_trimEnd {text : List Char} :
    ∀ c ∈ (trimEnd text).getLast?, isBlank c = false := by
  intro c hc
  rw [trimEnd, List.getLast?_reverse] at hc
  have := List.head?_dropWhile_not isBlank text.reverse
  rw [Option.mem_def.1 hc] at this
  simpa using this

theorem not_blank_of_head?_trim {text : List Char} :
    ∀ c ∈ (trim text).head?, isBlank c = false := by
  intro c hc
  obtain ⟨tail, _, heq⟩ := exists_trimEnd (text.dropWhile isBlank)
  have hhead : (text.dropWhile isBlank).head? = some c := by
    rw [heq, List.head?_append]
    exact Option.or_eq_some_iff.2 (Or.inl hc)
  have := List.head?_dropWhile_not isBlank text
  rw [hhead] at this
  simpa using this

/-- Blanks at the end of a text are in no run. -/
theorem divide_append_blanks (standsAlone : Char → Bool) (text : List Char) {tail : List Char}
    (htail : ∀ c ∈ tail, isBlank c = true) :
    divide isBlank standsAlone (text ++ tail) = divide isBlank standsAlone text := by
  rw [divide_append_of_head?, divide_eq_nil htail, List.append_nil]
  intro c hc
  simp [breaks, htail c (List.mem_of_mem_head? hc)]

/-- Blanks at the start of a text are in no run. -/
theorem divide_blanks_append (standsAlone : Char → Bool) {lead : List Char}
    (hlead : ∀ c ∈ lead, isBlank c = true) (text : List Char) :
    divide isBlank standsAlone (lead ++ text) = divide isBlank standsAlone text := by
  rw [divide_append_of_getLast?, divide_eq_nil hlead, List.nil_append]
  intro c hc
  simp [breaks, hlead c (List.mem_of_getLast? hc)]

theorem divide_trimEnd (standsAlone : Char → Bool) (text : List Char) :
    divide isBlank standsAlone (trimEnd text) = divide isBlank standsAlone text := by
  obtain ⟨tail, htail, heq⟩ := exists_trimEnd text
  have hdivide := divide_append_blanks standsAlone (trimEnd text) htail
  rw [← heq] at hdivide
  exact hdivide.symm

theorem divide_trim (standsAlone : Char → Bool) (text : List Char) :
    divide isBlank standsAlone (trim text) = divide isBlank standsAlone text := by
  obtain ⟨lead, tail, hlead, htail, heq⟩ := exists_trim text
  have hdivide := divide_blanks_append standsAlone hlead (trim text ++ tail)
  rw [← heq, divide_append_blanks standsAlone _ htail] at hdivide
  exact hdivide.symm

/-! ### Collapsing -/

/-- Collapsing changes no division at blanks. -/
theorem divide_collapse (standsAlone : Char → Bool) (text : List Char) :
    divide isBlank standsAlone (collapse text) = divide isBlank standsAlone text := by
  rw [collapse, divide_trim, divide, foldr_read_squeeze]
  rfl

theorem EvenlySpaced.trim {text : List Char} (h : EvenlySpaced text) :
    EvenlySpaced (Text.trim text) := by
  obtain ⟨lead, tail, _, _, heq⟩ := exists_trim text
  rw [heq] at h
  exact h.of_append_right.of_append_left

theorem evenlySpaced_collapse (text : List Char) : EvenlySpaced (collapse text) :=
  (evenlySpaced_squeeze text).trim

theorem joinWords_singleton (word : List Char) : joinWords [word] = word := by
  simp [joinWords]

theorem joinWords_cons_cons (word next : List Char) (words : List (List Char)) :
    joinWords (word :: next :: words) = word ++ ' ' :: joinWords (next :: words) := by
  simp [joinWords, List.intercalate_cons_cons]

/-- The words of an evenly spaced text that does not end with a blank, with one space between
neighbours, are the text from its first word on. -/
theorem joinWords_words_dropWhile {text : List Char} (heven : EvenlySpaced text)
    (hlast : ∀ c ∈ text.getLast?, isBlank c = false) :
    joinWords (words text) = text.dropWhile isBlank := by
  induction text using run_induction isBlank (fun _ => false) with
  | nil => rfl
  | cons c rest hc ih =>
      have hc : isBlank c = true := by simpa [breaks] using hc
      have hlast' : ∀ d ∈ rest.getLast?, isBlank d = false := by
        intro d hd
        exact hlast d (by rw [List.getLast?_cons, Option.mem_def.1 hd]; rfl)
      rw [words, divide_cons_divides hc, List.dropWhile_cons_of_pos hc]
      exact ih heven.2 hlast'
  | append run rest hne hrun hrest ih =>
      have hstart : (run ++ rest).dropWhile isBlank = run ++ rest := by
        obtain ⟨c, run, rfl⟩ := List.exists_cons_of_ne_nil hne
        have hc := hrun c (by simp)
        rw [List.cons_append, List.dropWhile_cons_of_neg (by simpa [breaks] using hc)]
      rw [words, divide_run_append hne hrun hrest, hstart]
      cases rest with
      | nil => simp [joinWords, List.intercalate_singleton]
      | cons c rest =>
          -- After the first word comes one space, and after that another word.
          have hc : isBlank c = true := by simpa [breaks] using hrest c (by simp)
          have heven' : EvenlySpaced (c :: rest) := heven.of_append_right
          obtain ⟨rfl, hnext⟩ := heven'.1 hc
          have hlast' : ∀ d ∈ (' ' :: rest).getLast?, isBlank d = false := by
            intro d hd
            exact hlast d (by rw [List.getLast?_append, Option.mem_def.1 hd]; rfl)
          obtain ⟨d, rest, rfl⟩ : ∃ d rest', rest = d :: rest' := by
            refine List.exists_cons_of_ne_nil ?_
            rintro rfl
            exact absurd (hlast' _ rfl) (by decide)
          have hd : isBlank d = false := hnext d rfl
          have hjoin := ih heven' hlast'
          rw [List.dropWhile_cons_of_pos rfl, List.dropWhile_cons_of_neg (by simp [hd])] at hjoin
          have hwords : words (' ' :: d :: rest) ≠ [] := by
            intro hnil
            rw [hnil] at hjoin
            exact absurd hjoin (by simp [joinWords, List.intercalate_nil])
          calc joinWords (run :: words (' ' :: d :: rest))
              = run ++ [' '] ++ joinWords (words (' ' :: d :: rest)) :=
                List.intercalate_cons_of_ne_nil hwords
            _ = run ++ ' ' :: d :: rest := by rw [hjoin, List.append_assoc]; rfl

/-- The words of an evenly spaced text, with one space between neighbours, are the text without the
blanks at its ends. -/
theorem joinWords_words {text : List Char} (heven : EvenlySpaced text) :
    joinWords (words text) = trim text := by
  have hstart : (trim text).dropWhile isBlank = trim text := by
    cases htext : trim text with
    | nil => rfl
    | cons c rest =>
        have hc : isBlank c = false := not_blank_of_head?_trim c (by rw [htext]; rfl)
        rw [List.dropWhile_cons_of_neg (by simp [hc])]
  calc joinWords (words text)
      = joinWords (words (trim text)) := by rw [words, words, divide_trim]
    _ = (trim text).dropWhile isBlank :=
      joinWords_words_dropWhile heven.trim not_blank_of_getLast?_trimEnd
    _ = trim text := hstart

end SqlTidy.Text
