/-
Module: SqlTidy.Proofs.Marking
Purpose: The pieces of a text with the characters that keywords cover, which depend on the pieces of
  the text alone.
Main exports: KeywordSet.markedPieces, KeywordSet.pieces_normalize,
  KeywordSet.markedPieces_joinWords_pieces, KeywordSet.markedPieces_eq_of_pieces_eq
-/
import SqlTidy.Proofs.Normalization

namespace SqlTidy

open Text

/-!
A formatted query has its line breaks and spaces in other places than the query it was made from.
What matters is that it has the same pieces: a keyword of one word stands in a piece, a keyword of
several words in neighbouring pieces with no mark between them, and between these an evenly spaced
text has exactly one space.  So the pieces of a text say which of their characters are covered.
-/

namespace Keyword

theorem isWordChar_of_isMark {c : Char} (h : isMark c = true) : isWordChar c = false := by
  rcases isMark_cases h with rfl | rfl | rfl | rfl <;> decide

/-- No keyword goes on over a mark. -/
theorem stops_of_isMark {c : Char} (hc : isMark c = true) (text : List Char) :
    Stops (c :: text) where
  startsApart := startsApart_cons (isWordChar_of_isMark hc)
  afterSpace := by
    intro rest heq
    obtain ⟨rfl, _⟩ := List.cons.inj heq
    exact absurd hc (by decide)

/-- No keyword goes on into blanks. -/
theorem stops_of_isBlank {tail : List Char} (h : ∀ c ∈ tail, isBlank c = true) : Stops tail where
  startsApart := fun c hc => isWordChar_of_isBlank (h c (List.mem_of_mem_head? hc))
  afterSpace := by
    rintro rest rfl c hc
    exact isWordChar_of_isBlank (h c (List.mem_cons_of_mem _ (List.mem_of_mem_head? hc)))

end Keyword

namespace KeywordSet

/-- A marked character is a blank. -/
def isBlankAt (character : Char × Bool) : Bool :=
  isBlank character.1

/-- A marked character is one of those that are tokens by themselves. -/
def isMarkAt (character : Char × Bool) : Bool :=
  isMark character.1

/-- The pieces of a text, each character with whether a keyword of the set covers it. -/
def markedPieces (set : KeywordSet) (text : List Char) : List (List (Char × Bool)) :=
  divide isBlankAt isMarkAt (set.marked text)

theorem map_fst_markedPieces (set : KeywordSet) (text : List Char) :
    (set.markedPieces text).map (List.map Prod.fst) = pieces text := by
  have hmap : (set.markedPieces text).map (List.map Prod.fst) =
      divide isBlank isMark ((set.marked text).map Prod.fst) :=
    map_divide Prod.fst (fun _ => rfl) (fun _ => rfl) (set.marked text)
  rw [hmap, map_fst_marked]
  rfl

/-! ### Recased pieces -/

theorem isBlank_recase (casing : Casing) (character : Char × Bool) :
    isBlank (casing.recase character) = isBlankAt character :=
  apply_eq_of_toLower_eq isBlank_toLower (casing.toLower_recase character)

theorem isMark_recase (casing : Casing) (character : Char × Bool) :
    isMark (casing.recase character) = isMarkAt character :=
  apply_eq_of_toLower_eq isMark_toLower (casing.toLower_recase character)

/-- The pieces of a normalized query are the pieces of the query with the covered characters
recased. -/
theorem pieces_normalize {set : KeywordSet} (hset : set.WordShaped) (casing : Casing)
    (query : List Char) :
    pieces (set.normalize casing query) =
      (set.markedPieces (collapse query)).map (List.map casing.recase) := by
  rw [normalize_eq hset]
  exact (map_divide casing.recase (isBlank_recase casing) (isMark_recase casing) _).symm

/-- The pieces of a normalized query keep their marks. -/
theorem markedPieces_normalize {set : KeywordSet} (hset : set.WordShaped) (casing : Casing)
    (query : List Char) :
    set.markedPieces (set.normalize casing query) =
      (set.markedPieces (collapse query)).map
        (List.map fun character => (casing.recase character, character.2)) := by
  have hblank : ∀ character : Char × Bool,
      isBlankAt (casing.recase character, character.2) = isBlankAt character :=
    isBlank_recase casing
  have hmark : ∀ character : Char × Bool,
      isMarkAt (casing.recase character, character.2) = isMarkAt character :=
    isMark_recase casing
  rw [normalize_eq hset, markedPieces, marked_map_recase]
  exact (map_divide (fun character => (casing.recase character, character.2)) hblank hmark _).symm

/-! ### Blanks and marks -/

section

variable {set : KeywordSet} (hset : set.WordShaped)
include hset

theorem markedPieces_blanks_append {lead : List Char} (hlead : ∀ c ∈ lead, isBlank c = true)
    (text : List Char) : set.markedPieces (lead ++ text) = set.markedPieces text := by
  induction lead with
  | nil => rfl
  | cons c lead ih =>
      have hc : isBlank c = true := hlead c (by simp)
      have hdivides : isBlankAt (c, false) = true := hc
      have hrest : ∀ d ∈ lead, isBlank d = true := fun d hd => hlead d (by simp [hd])
      rw [List.cons_append, markedPieces, marked_cons hset (Keyword.isWordChar_of_isBlank hc),
        divide_cons_divides hdivides]
      exact ih hrest

theorem markedPieces_append_blanks (text : List Char) {tail : List Char}
    (htail : ∀ c ∈ tail, isBlank c = true) :
    set.markedPieces (text ++ tail) = set.markedPieces text := by
  have hblank : ∀ character ∈ set.marked tail, isBlankAt character = true :=
    fun character hmem => htail _ (List.of_mem_zip hmem).1
  rw [markedPieces, marked_append hset text (Keyword.stops_of_isBlank htail),
    divide_append_of_head?, divide_eq_nil hblank, List.append_nil]
  · rfl
  · intro character hmem
    simp [breaks, hblank character (List.mem_of_mem_head? hmem)]

/-- The marked pieces of a text are those on both sides of a mark, and the mark. -/
theorem markedPieces_append_mark {c : Char} (hc : isMark c = true) (before after : List Char) :
    set.markedPieces (before ++ c :: after) =
      set.markedPieces before ++ [(c, false)] :: set.markedPieces after := by
  have hblank : isBlankAt (c, false) = false := not_blank_of_isMark hc
  have hmark : isMarkAt (c, false) = true := hc
  rw [markedPieces, marked_append hset before (Keyword.stops_of_isMark hc after),
    marked_cons hset (Keyword.isWordChar_of_isMark hc),
    divide_append_cons_standsAlone hblank hmark]
  rfl

/-! ### The pieces are enough -/

omit hset in
theorem pieces_eq_words {text : List Char} (h : ∀ c ∈ text, isMark c = false) :
    pieces text = words text := by
  have hread : ∀ c ∈ text, ∀ state : OpenRun Char,
      OpenRun.read isBlank isMark c state = OpenRun.read isBlank (fun _ => false) c state := by
    intro c hc state
    simp [OpenRun.read, h c hc]
  rw [pieces, words, divide, divide, List.foldr_ext _ _ _ hread]

omit hset in
/-- A mark among joined words has blanks around it at most. -/
theorem joinWords_append_mark (before after : List (List Char)) (c : Char) :
    ∃ lead tail, (∀ d ∈ lead, isBlank d = true) ∧ (∀ d ∈ tail, isBlank d = true) ∧
      joinWords (before ++ [c] :: after) =
        joinWords before ++ lead ++ c :: (tail ++ joinWords after) := by
  have hspace : ∀ d ∈ [' '], isBlank d = true := by
    intro d hd
    obtain rfl : d = ' ' := by simpa using hd
    rfl
  induction before with
  | nil =>
      cases after with
      | nil => exact ⟨[], [], by simp, by simp, rfl⟩
      | cons word after =>
          exact ⟨[], [' '], by simp, hspace, List.intercalate_cons_cons⟩
  | cons word before ih =>
      obtain ⟨lead, tail, hlead, htail, heq⟩ := ih
      have hjoin : joinWords (word :: (before ++ [c] :: after)) =
          word ++ [' '] ++ joinWords (before ++ [c] :: after) :=
        List.intercalate_cons_of_ne_nil (by simp)
      cases before with
      | nil =>
          refine ⟨' ' :: lead, tail, ?_, htail, ?_⟩
          · intro d hd
            rcases List.mem_cons.1 hd with rfl | hd
            · rfl
            · exact hlead d hd
          · rw [List.cons_append, hjoin, heq]
            simp [joinWords, List.intercalate_singleton, List.intercalate_nil]
      | cons next before =>
          refine ⟨lead, tail, hlead, htail, ?_⟩
          have hfront : joinWords (word :: next :: before) =
              word ++ [' '] ++ joinWords (next :: before) := List.intercalate_cons_cons
          rw [List.cons_append, hjoin, heq, hfront]
          simp

/-- An evenly spaced text has the marked pieces of its pieces joined by single spaces.  The induction
is on the length: a mark splits both texts, and without marks the pieces are words. -/
theorem markedPieces_joinWords_pieces {text : List Char} (heven : EvenlySpaced text) :
    set.markedPieces (joinWords (pieces text)) = set.markedPieces text := by
  induction hlength : text.length using Nat.strongRecOn generalizing text with
  | ind n ih =>
      subst hlength
      by_cases hmark : ∃ c ∈ text, isMark c = true
      · obtain ⟨c, hmem, hc⟩ := hmark
        obtain ⟨before, after, rfl⟩ := List.append_of_mem hmem
        have hbefore := ih before.length (by simp) heven.of_append_left rfl
        have hafter := ih after.length (by simp; omega) heven.of_append_right.2 rfl
        obtain ⟨lead, tail, hlead, htail, hjoin⟩ :=
          joinWords_append_mark (pieces before) (pieces after) c
        rw [pieces_append_mark hc, hjoin, markedPieces_append_mark hset hc,
          markedPieces_append_mark hset hc, markedPieces_append_blanks hset _ hlead,
          markedPieces_blanks_append hset htail, hbefore, hafter]
      · have hwords : pieces text = words text :=
          pieces_eq_words fun c hc => Bool.eq_false_iff.2 fun hmem => hmark ⟨c, hc, hmem⟩
        obtain ⟨lead, tail, hlead, htail, htrim⟩ := exists_trim text
        calc set.markedPieces (joinWords (pieces text))
            = set.markedPieces (trim text) := by rw [hwords, joinWords_words heven]
          _ = set.markedPieces (lead ++ (trim text ++ tail)) := by
            rw [markedPieces_blanks_append hset hlead, markedPieces_append_blanks hset _ htail]
          _ = set.markedPieces text := by rw [← htrim]

/-- The pieces of an evenly spaced text say which of its characters the keywords cover. -/
theorem markedPieces_eq_of_pieces_eq {text other : List Char} (heven : EvenlySpaced text)
    (hother : EvenlySpaced other) (h : pieces text = pieces other) :
    set.markedPieces text = set.markedPieces other := by
  rw [← markedPieces_joinWords_pieces hset heven, h, markedPieces_joinWords_pieces hset hother]

end

end KeywordSet

end SqlTidy
