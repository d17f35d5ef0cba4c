/-
Module: SqlTidy.Keyword.Occurrence
Purpose: Where a keyword stands in a text, and spelling it anew there.
Main exports: Keyword.occurrence?, Keyword.respell
-/
import SqlTidy.Keyword

namespace SqlTidy.Keyword

open Text

/-!
A keyword occurs where its words stand in a row with ASCII blanks between them, whatever the case
of their ASCII letters, and where neither end cuts through a run of word characters.  Occurrences
are taken from left to right and do not overlap.  The characters around an occurrence are always
those of the text that is read, never those of the text that is written.
-/

/-- The characters agree once ASCII letters are folded. -/
def sameLetter (a b : Char) : Bool :=
  a.toLower == b.toLower

/-- An ASCII blank, the only kind that may divide the words of a keyword. -/
def isGapChar (c : Char) : Bool :=
  c == ' ' || (0x9 ≤ c.toNat && c.toNat ≤ 0xD)

/-- A word boundary lies between two neighbours if exactly one of them is a word character; the
ends of the text count as no word character. -/
def isBoundary (before after : Option Char) : Bool :=
  before.any isWordChar != after.any isWordChar

/-- Splits a text after the word that it starts with. -/
def splitWord? : (word text : List Char) → Option (List Char × List Char)
  | [], text => some ([], text)
  | w :: word, c :: text =>
      if sameLetter w c then
        (splitWord? word text).map fun (found, rest) => (c :: found, rest)
      else none
  | _ :: _, [] => none

/-- Splits a text after the words that it starts with, gaps included. -/
def splitWords? : (words : List (List Char)) → (text : List Char) →
    Option (List Char × List Char)
  | [], _ => none
  | [word], text => splitWord? word text
  | word :: words, text =>
      match splitWord? word text with
      | none => none
      | some (first, text) =>
          match text.takeWhile isGapChar with
          | [] => none
          | gap =>
              (splitWords? words (text.dropWhile isGapChar)).map fun (found, rest) =>
                (first ++ gap ++ found, rest)

/-- The occurrence of the keyword at the start of a text that follows `before`: the characters it
takes up and the rest. -/
def occurrence? (keyword : Keyword) (before : Option Char) (text : List Char) :
    Option (List Char × List Char) :=
  match splitWords? keyword.words text with
  | some (found, rest) =>
      if isBoundary before text.head? && isBoundary found.getLast? rest.head? then
        some (found, rest)
      else none
  | none => none

/-- Splitting after a word loses nothing. -/
theorem append_of_splitWord? {word text found rest : List Char}
    (h : splitWord? word text = some (found, rest)) : found ++ rest = text := by
  induction word generalizing text found with
  | nil => simp_all [splitWord?]
  | cons w word ih =>
      cases text with
      | nil => simp [splitWord?] at h
      | cons c text =>
          simp only [splitWord?] at h
          split at h
          · obtain ⟨⟨a, b⟩, hsplit, heq⟩ := Option.map_eq_some_iff.1 h
            simp only [Prod.mk.injEq] at heq
            obtain ⟨rfl, rfl⟩ := heq
            simp [ih hsplit]
          · simp at h

/-- Splitting after words loses nothing. -/
theorem append_of_splitWords? {words : List (List Char)} {text found rest : List Char}
    (h : splitWords? words text = some (found, rest)) : found ++ rest = text := by
  induction words generalizing text found with
  | nil => simp [splitWords?] at h
  | cons word words ih =>
      cases words with
      | nil => exact append_of_splitWord? (by simpa [splitWords?] using h)
      | cons next words =>
          simp only [splitWords?] at h
          split at h
          · simp at h
          · rename_i first tail hfirst
            split at h
            · simp at h
            · obtain ⟨⟨a, b⟩, hsplit, heq⟩ := Option.map_eq_some_iff.1 h
              simp only [Prod.mk.injEq] at heq
              obtain ⟨rfl, rfl⟩ := heq
              rw [List.append_assoc, List.append_assoc, ih hsplit, List.takeWhile_append_dropWhile]
              exact append_of_splitWord? hfirst

/-- An occurrence and the rest make up the text. -/
theorem append_of_occurrence? {keyword : Keyword} {before : Option Char}
    {text found rest : List Char} (h : keyword.occurrence? before text = some (found, rest)) :
    found ++ rest = text := by
  simp only [occurrence?] at h
  split at h
  · rename_i hsplit
    split at h
    · simp only [Option.some.injEq, Prod.mk.injEq] at h
      obtain ⟨rfl, rfl⟩ := h
      exact append_of_splitWords? hsplit
    · simp at h
  · simp at h

/-- Respells the occurrences in a text that follows `before`; `done` is what has been written so
far, last character first.  An occurrence without characters is passed over. -/
def respellAfter (keyword : Keyword) (spell : List Char → List Char) (before : Option Char)
    (done : List Char) (text : List Char) : List Char :=
  match text with
  | [] => done.reverse
  | c :: tail =>
      match _h : keyword.occurrence? before (c :: tail) with
      | some (f :: found, rest) =>
          respellAfter keyword spell ((f :: found).getLast?)
            ((spell (f :: found)).reverse ++ done) rest
      | _ => respellAfter keyword spell (some c) (c :: done) tail
termination_by text.length
decreasing_by
  · have := congrArg List.length (append_of_occurrence? _h)
    simp only [List.length_append, List.length_cons] at this ⊢
    omega
  · simp

/-- Respells every occurrence of the keyword in a text. -/
def respell (keyword : Keyword) (spell : List Char → List Char) (text : List Char) : List Char :=
  respellAfter keyword spell none [] text

end SqlTidy.Keyword
