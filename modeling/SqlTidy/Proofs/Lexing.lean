/-
Module: SqlTidy.Proofs.Lexing
Purpose: The division into tokens as a lexer that reads from the left and always takes the longest
  word, and as a cut around separators whose parts are trimmed.
Main exports: munch, pieces_eq_munch, cutFrom, keepTrimmed, keepTrimmed_cutFrom,
  tokenize_maximal_munch
-/
import Mathlib
import SqlTidy.Proofs.Tokens

namespace SqlTidy

open Text

/-!
The pieces of a text are gathered from its end, one open run at a time.  Two other readings give the
same pieces.  A lexer starts at the front and decides at every piece how far it goes.  A cut keeps
the separators and also the empty texts beside them, so that neighbouring separators, and separators
at the ends, leave parts that have to be dropped afterwards.
-/

/-! ### From the left -/

/-- The pieces of a text, read from the left: a blank is skipped, a mark is a piece, and any other
character starts a piece that takes in all characters up to the next blank or mark. -/
def munch : List Char → List (List Char)
  | [] => []
  | c :: rest =>
      if isBlank c then munch rest
      else if isMark c then [c] :: munch rest
      else (c :: rest.takeWhile (!endsPiece ·)) :: munch (rest.dropWhile (!endsPiece ·))
termination_by text => text.length
decreasing_by
  · simp
  · simp
  · exact Nat.lt_succ_of_le (List.dropWhile_suffix _).length_le

/-- What is taken before the first blank or mark has neither of them. -/
theorem not_endsPiece_of_mem_takeWhile {text : List Char} :
    ∀ c ∈ text.takeWhile (!endsPiece ·), endsPiece c = false := by
  intro c hc
  have := List.all_eq_true.1 List.all_takeWhile c hc
  simpa using this

/-- What is left from the first blank or mark on starts with it. -/
theorem endsPiece_of_head?_dropWhile {text : List Char} :
    ∀ c ∈ (text.dropWhile (!endsPiece ·)).head?, endsPiece c = true := by
  intro c hc
  have := List.head?_dropWhile_not (!endsPiece ·) text
  rw [Option.mem_def.1 hc] at this
  simpa using this

/-- Reading from the left gives the pieces. -/
theorem pieces_eq_munch (text : List Char) : pieces text = munch text := by
  fun_induction munch text with
  | case1 => rfl
  | case2 c rest hblank ih =>
      rw [← ih]
      exact divide_cons_divides hblank rest
  | case3 c rest hblank hmark ih =>
      rw [← ih]
      exact divide_cons_standsAlone (by simpa using hblank) hmark rest
  | case4 c rest hblank hmark ih =>
      rw [← ih]
      have hword : ∀ d ∈ c :: rest.takeWhile (!endsPiece ·), endsPiece d = false := by
        intro d hd
        rcases List.mem_cons.1 hd with rfl | hd
        · simp [breaks, hblank, hmark]
        · exact not_endsPiece_of_mem_takeWhile d hd
      calc pieces (c :: rest)
          = pieces (c :: rest.takeWhile (!endsPiece ·) ++ rest.dropWhile (!endsPiece ·)) := by
            rw [List.cons_append, List.takeWhile_append_dropWhile]
        _ = _ :: pieces (rest.dropWhile (!endsPiece ·)) :=
            divide_run_append (List.cons_ne_nil c _) hword endsPiece_of_head?_dropWhile

/-! ### Around separators -/

/-- A text cut around its separators, from the left, where `before` is what stands between the last
separator and the text.  A separator is a maximal run of blanks, or a mark, and is a part of its
own; what stands between two separators is a part even if it is empty. -/
def cutFrom (before : List Char) : List Char → List (List Char)
  | [] => [before]
  | c :: rest =>
      if isBlank c then
        before :: (c :: rest.takeWhile isBlank) :: cutFrom [] (rest.dropWhile isBlank)
      else if isMark c then before :: [c] :: cutFrom [] rest
      else cutFrom (before ++ [c]) rest
termination_by text => text.length
decreasing_by
  · exact Nat.lt_succ_of_le (List.dropWhile_suffix _).length_le
  · simp
  · simp

/-- What is left of parts after the blanks at their ends are dropped: the parts that are not empty
then. -/
def keepTrimmed (parts : List (List Char)) : List (List Char) :=
  (parts.map trim).filter (!·.isEmpty)

theorem keepTrimmed_cons (part : List Char) (parts : List (List Char)) :
    keepTrimmed (part :: parts) = keepTrimmed [part] ++ keepTrimmed parts := by
  rw [keepTrimmed, ← List.singleton_append, List.map_append, List.filter_append]
  rfl

/-- A part of blanks leaves nothing. -/
theorem keepTrimmed_blanks {part : List Char} (h : ∀ c ∈ part, isBlank c = true) :
    keepTrimmed [part] = [] := by
  have htrim : trim part = [] := by
    rw [trim, List.dropWhile_eq_nil_iff.2 h]
    rfl
  simp [keepTrimmed, htrim]

theorem Text.trim_of_not_blank {text : List Char} (h : ∀ c ∈ text, isBlank c = false) :
    trim text = text := by
  have hdrop : ∀ other : List Char, (∀ c ∈ other, isBlank c = false) →
      other.dropWhile isBlank = other := by
    intro other hother
    cases other with
    | nil => rfl
    | cons c rest => exact List.dropWhile_cons_of_neg (by simp [hother c List.mem_cons_self])
  rw [trim, hdrop text h, trimEnd, hdrop text.reverse (by simpa using h), List.reverse_reverse]

/-- A part without blanks and marks is left as the one piece that it is, or leaves nothing if it is
empty. -/
theorem keepTrimmed_word {part : List Char} (h : ∀ c ∈ part, endsPiece c = false) :
    keepTrimmed [part] = pieces part := by
  have htrim : trim part = part :=
    trim_of_not_blank fun c hc => (Bool.or_eq_false_iff.1 (h c hc)).1
  by_cases hne : part = []
  · subst hne
    rfl
  · rw [pieces, divide_eq_singleton hne h]
    simp [keepTrimmed, htrim, hne]

theorem keepTrimmed_mark {c : Char} (hc : isMark c = true) : keepTrimmed [[c]] = [[c]] := by
  have htrim : trim [c] = [c] := trim_of_not_blank (by simpa using not_blank_of_isMark hc)
  simp [keepTrimmed, htrim]

/-- Trimming the parts of a cut leaves the pieces. -/
theorem keepTrimmed_cutFrom {before : List Char} (hbefore : ∀ c ∈ before, endsPiece c = false)
    (text : List Char) : keepTrimmed (cutFrom before text) = pieces (before ++ text) := by
  fun_induction cutFrom before text with
  | case1 before => simpa using keepTrimmed_word hbefore
  | case2 before c rest hblank ih =>
      have hrun : ∀ d ∈ c :: rest.takeWhile isBlank, isBlank d = true := by
        intro d hd
        rcases List.mem_cons.1 hd with rfl | hd
        · exact hblank
        · exact List.all_eq_true.1 List.all_takeWhile d hd
      have hskip : pieces (rest.dropWhile isBlank) = pieces rest := by
        have := divide_blanks_append isMark hrun (rest.dropWhile isBlank)
        rw [List.cons_append, List.takeWhile_append_dropWhile] at this
        exact this.symm.trans (divide_cons_divides hblank rest)
      rw [keepTrimmed_cons, keepTrimmed_cons _ (cutFrom _ _), keepTrimmed_word hbefore,
        keepTrimmed_blanks hrun, ih (by simp), List.nil_append, List.nil_append, hskip]
      exact (divide_append_cons_divides hblank before rest).symm
  | case3 before c rest hblank hmark ih =>
      rw [keepTrimmed_cons, keepTrimmed_cons _ (cutFrom _ _), keepTrimmed_word hbefore,
        keepTrimmed_mark hmark, ih (by simp), pieces_append_mark hmark]
      rfl
  | case4 before c rest hblank hmark ih =>
      have hword : ∀ d ∈ before ++ [c], endsPiece d = false := by
        intro d hd
        rcases List.mem_append.1 hd with hd | hd
        · exact hbefore d hd
        · obtain rfl := List.mem_singleton.1 hd
          simp [breaks, hblank, hmark]
      rw [ih hword, List.append_assoc, List.singleton_append]

/-! ### Tokens -/

/-- The tokens come from a lexer of the longest match.  Whatever the keywords are, the values of the
tokens of a text are what `munch` reads from the left, and also what trimming leaves of the text cut
around its blanks and marks.  Together they are the text without its blanks.  Two texts of which the
first ends, or the second starts, with a blank or a mark have their tokens one after the other. -/
theorem tokenize_maximal_munch (set : KeywordSet) :
    (∀ text, (tokenize set text).map Token.value = munch text ∧
        (tokenize set text).map Token.value = keepTrimmed (cutFrom [] text) ∧
        ((tokenize set text).map Token.value).flatten = text.filter (!isBlank ·)) ∧
      ∀ before after : List Char,
        before.getLast?.any endsPiece = true ∨ after.head?.any endsPiece = true →
          tokenize set (before ++ after) = tokenize set before ++ tokenize set after := by
  constructor
  · intro text
    have hcut : keepTrimmed (cutFrom [] text) = pieces text := keepTrimmed_cutFrom (by simp) text
    rw [map_value_tokenize]
    exact ⟨pieces_eq_munch text, hcut.symm, flatten_divide text⟩
  · intro before after h
    have hpieces : pieces (before ++ after) = pieces before ++ pieces after := by
      rcases h with hlast | hhead
      · apply divide_append_of_getLast?
        intro c hc
        simpa [Option.mem_def.1 hc] using hlast
      · apply divide_append_of_head?
        intro c hc
        simpa [Option.mem_def.1 hc] using hhead
    rw [tokenize, hpieces, List.map_append, tokenize, tokenize]

/-- A mark at the end of the first text, and an ideographic space at the start of the second. -/
theorem tokenize_maximal_munch_joined :
    "x in(".toList.getLast?.any endsPiece = true ∧
      "\u3000b,c".toList.head?.any endsPiece = true ∧
      tokenize .standard ("x in(".toList ++ "a".toList) =
        tokenize .standard "x in(".toList ++ tokenize .standard "a".toList ∧
      tokenize .standard ("a".toList ++ "\u3000b,c".toList) =
        tokenize .standard "a".toList ++ tokenize .standard "\u3000b,c".toList := by
  have hmark : "x in(".toList.getLast?.any endsPiece = true := by decide +kernel
  have hblank : "\u3000b,c".toList.head?.any endsPiece = true := by decide +kernel
  obtain ⟨_, hjoin⟩ := tokenize_maximal_munch .standard
  exact ⟨hmark, hblank, hjoin _ _ (Or.inl hmark), hjoin _ _ (Or.inr hblank)⟩

end SqlTidy
