/-
Module: SqlTidy.Proofs.Folding
Purpose: Texts that differ only in the case of ASCII letters have the same shape.
Main exports: fold, Casing.letter, eq_of_toLower_eq, isBlank_toLower, isMark_toLower,
  isWordChar_toLower, pieces_fold, contains_fold, Token.kind_ofPiece_fold
-/
import Mathlib
import SqlTidy.Casing
import SqlTidy.Proofs.Tokens

namespace SqlTidy

open Text

/-!
Folding makes the ASCII letters of a text small and leaves every other character alone.  No class of
characters that formatting looks at tells a letter from its other case, so a text and its folded form
divide alike, and folded pieces are tokens of the same kinds.
-/

/-- The text with its ASCII letters in small spelling. -/
def Text.fold (text : List Char) : List Char :=
  text.map Char.toLower

/-- The spelling of a letter under a policy. -/
def Casing.letter : Casing → Char → Char
  | .upper => Char.toUpper
  | .lower => Char.toLower
  | .keep => id

@[simp] theorem Casing.toLower_letter (casing : Casing) (c : Char) :
    (casing.letter c).toLower = c.toLower := by
  cases casing with
  | upper => exact Char.toLower_toUpper_eq_toLower c
  | lower => exact Char.toLower_toLower_eq_toLower c
  | keep => rfl

/-! ### Classes of characters -/

theorem isAlpha_bounds {c : Char} (h : c.isAlpha = true) :
    (0x41 ≤ c.toNat ∧ c.toNat ≤ 0x5A) ∨ (0x61 ≤ c.toNat ∧ c.toNat ≤ 0x7A) := by
  simpa [Char.isAlpha, Char.isUpper, Char.isLower, UInt32.le_iff_toNat_le] using h

theorem isDigit_bounds {c : Char} (h : c.isDigit = true) : 0x30 ≤ c.toNat ∧ c.toNat ≤ 0x39 := by
  simpa using Char.isDigit_iff_toNat.1 h

/-- Folding changes letters only, and makes letters of them. -/
theorem toLower_eq_or_isAlpha (c : Char) :
    c.toLower = c ∨ c.isAlpha = true ∧ c.toLower.isAlpha = true := by
  by_cases hupper : c.isUpper = true
  · have halpha : c.isAlpha = true := by simp [Char.isAlpha, hupper]
    exact Or.inr ⟨halpha, by rw [Char.isAlpha_toLower_eq_isAlpha, halpha]⟩
  · exact Or.inl (Char.toLower_eq_of_not_isUpper hupper)

/-- A character that is no ASCII letter is alone in its folding. -/
theorem eq_of_toLower_eq {c d : Char} (hc : c.isAlpha = false) (h : c.toLower = d.toLower) :
    d = c := by
  rcases toLower_eq_or_isAlpha c with hlower | ⟨halpha, _⟩
  · rcases toLower_eq_or_isAlpha d with hlower' | ⟨_, halpha⟩
    · rw [← hlower', ← h, hlower]
    · rw [← h, hlower, hc] at halpha
      exact absurd halpha (by simp)
  · rw [hc] at halpha
    exact absurd halpha (by simp)

/-- A class that all letters share does not see case. -/
theorem apply_toLower_of_isAlpha (property : Char → Bool) (value : Bool)
    (h : ∀ c : Char, c.isAlpha = true → property c = value) (c : Char) :
    property c.toLower = property c := by
  rcases toLower_eq_or_isAlpha c with heq | ⟨hc, hlower⟩
  · rw [heq]
  · rw [h c hc, h _ hlower]

theorem not_blank_of_isAlpha {c : Char} (h : c.isAlpha = true) : isBlank c = false := by
  have hbounds := isAlpha_bounds h
  simp only [isBlank, Bool.or_eq_false_iff, Bool.and_eq_false_iff, decide_eq_false_iff_not,
    beq_eq_false_iff_ne]
  omega

theorem not_isMark_of_isAlpha {c : Char} (h : c.isAlpha = true) : isMark c = false := by
  apply Bool.eq_false_iff.2
  intro hmark
  rcases isMark_cases hmark with rfl | rfl | rfl | rfl <;> exact absurd h (by decide)

@[simp] theorem isBlank_toLower (c : Char) : isBlank c.toLower = isBlank c :=
  apply_toLower_of_isAlpha isBlank false (fun _ => not_blank_of_isAlpha) c

@[simp] theorem isMark_toLower (c : Char) : isMark c.toLower = isMark c :=
  apply_toLower_of_isAlpha isMark false (fun _ => not_isMark_of_isAlpha) c

@[simp] theorem isWordChar_toLower (c : Char) :
    Keyword.isWordChar c.toLower = Keyword.isWordChar c := by
  refine apply_toLower_of_isAlpha Keyword.isWordChar true (fun c hc => ?_) c
  simp [Keyword.isWordChar, Char.isAlphanum, hc]

theorem lt_bound_toLower (c : Char) :
    decide (c.toLower.toNat < 0x80) = decide (c.toNat < 0x80) := by
  refine apply_toLower_of_isAlpha (fun c => decide (c.toNat < 0x80)) true (fun c hc => ?_) c
  have hbounds := isAlpha_bounds hc
  simp only [decide_eq_true_eq]
  omega

/-- Characters that agree once they are folded agree on every class that does not see case. -/
theorem apply_eq_of_toLower_eq {property : Char → Bool}
    (h : ∀ c : Char, property c.toLower = property c) {c d : Char} (hcd : c.toLower = d.toLower) :
    property c = property d := by
  rw [← h c, hcd, h d]

/-! ### Folded texts -/

namespace Text

@[simp] theorem fold_nil : fold [] = [] := rfl

@[simp] theorem fold_cons (c : Char) (text : List Char) :
    fold (c :: text) = c.toLower :: fold text := rfl

@[simp] theorem fold_append (before after : List Char) :
    fold (before ++ after) = fold before ++ fold after :=
  List.map_append

@[simp] theorem length_fold (text : List Char) : (fold text).length = text.length :=
  List.length_map _

@[simp] theorem fold_fold (text : List Char) : fold (fold text) = fold text := by
  simp [fold]

@[simp] theorem isAscii_fold (text : List Char) : isAscii (fold text) = isAscii text := by
  simp only [isAscii, fold, List.all_map, Function.comp_def, lt_bound_toLower]

theorem upper_eq_map_toUpper {text : List Char} (h : isAscii text = true) :
    upper text = text.map Char.toUpper := by
  induction text with
  | nil => rfl
  | cons c text ih =>
      simp only [isAscii, List.all_cons, Bool.and_eq_true, decide_eq_true_eq] at h
      have htext : upper text = text.map Char.toUpper := ih h.2
      simp only [upper, List.flatMap_cons] at htext ⊢
      simp [upperChar, h.1, htext]

theorem upper_fold {text : List Char} (h : isAscii text = true) :
    upper (fold text) = upper text := by
  rw [upper_eq_map_toUpper h, upper_eq_map_toUpper (by rwa [isAscii_fold])]
  simp [fold]

end Text

/-! ### Folded pieces -/

theorem pieces_fold (text : List Char) : pieces (fold text) = (pieces text).map fold :=
  (map_divide Char.toLower isBlank_toLower isMark_toLower text).symm

theorem contains_fold (set : KeywordSet) (text : List Char) :
    set.contains (fold text) = set.contains text := by
  rw [KeywordSet.contains, KeywordSet.contains, isAscii_fold]
  cases hascii : isAscii text with
  | false => rfl
  | true => rw [upper_fold hascii]

theorem Token.mark?_of_not_isMark {c : Char} (h : isMark c = false) : mark? [c] = none := by
  simp only [isMark, Bool.or_eq_false_iff, beq_eq_false_iff_ne] at h
  unfold mark?
  split <;> simp_all

/-- Folding keeps a mark as it is and makes no mark of anything else. -/
theorem Token.mark?_fold (piece : List Char) : mark? (fold piece) = mark? piece := by
  match piece with
  | [] => rfl
  | [c] =>
      by_cases hc : isMark c = true
      · rcases isMark_cases hc with rfl | rfl | rfl | rfl <;> rfl
      · have hc : isMark c = false := by simpa using hc
        rw [mark?_of_not_isMark hc]
        exact mark?_of_not_isMark (by rw [isMark_toLower, hc])
  | _ :: _ :: _ => simp [mark?]

/-- The kind of a token does not depend on the case of its letters. -/
theorem Token.kind_ofPiece_fold (set : KeywordSet) (piece : List Char) :
    (ofPiece set (fold piece)).kind = (ofPiece set piece).kind := by
  simp only [ofPiece, mark?_fold, contains_fold]
  cases mark? piece with
  | some mark => rfl
  | none =>
      cases set.contains piece with
      | true => rfl
      | false => rfl

end SqlTidy
