/-
Module: SqlTidy.Proofs.Tokens
Purpose: The pieces of a text, and the tokens that they are.
Main exports: isMark_cases, pieces_of_mem_pieces, not_blank_of_mem_pieces, pieces_collapse,
  Token.value_ofPiece, Token.isWord, map_value_tokenize, tokenize_of_pieces_eq
-/
import SqlTidy.Proofs.Spacing
import SqlTidy.Token

namespace SqlTidy

open Text

/-- A character at which a piece ends: a blank or a mark. -/
abbrev endsPiece : Char → Bool :=
  breaks isBlank isMark

theorem isMark_cases {c : Char} (h : isMark c = true) :
    c = '(' ∨ c = ')' ∨ c = ',' ∨ c = ';' := by
  simpa [isMark, or_assoc] using h

theorem not_blank_of_isMark {c : Char} (h : isMark c = true) : isBlank c = false := by
  rcases isMark_cases h with rfl | rfl | rfl | rfl <;> rfl

/-- Each piece of a text is the only piece of itself. -/
theorem pieces_of_mem_pieces {piece text : List Char} (h : piece ∈ pieces text) :
    pieces piece = [piece] := by
  rcases mem_divide h with ⟨c, rfl, hblank, hmark⟩ | ⟨_, _, _, hne, hrun, _⟩
  · exact divide_cons_standsAlone hblank hmark []
  · exact divide_eq_singleton hne hrun

/-- A piece has characters, and none of them is a blank. -/
theorem not_blank_of_mem_pieces {piece text : List Char} (h : piece ∈ pieces text) :
    piece ≠ [] ∧ ∀ c ∈ piece, isBlank c = false := by
  rcases mem_divide h with ⟨c, rfl, hblank, _⟩ | ⟨_, _, _, hne, hrun, _⟩
  · exact ⟨List.cons_ne_nil c [], by simpa using hblank⟩
  · refine ⟨hne, fun c hc => ?_⟩
    have hoff := hrun c hc
    rw [breaks, Bool.or_eq_false_iff] at hoff
    exact hoff.1

/-- A mark is a piece between the pieces on both sides of it. -/
theorem pieces_append_mark {c : Char} (hc : isMark c = true) (before after : List Char) :
    pieces (before ++ c :: after) = pieces before ++ [c] :: pieces after :=
  divide_append_cons_standsAlone (not_blank_of_isMark hc) hc before after

theorem pieces_collapse (text : List Char) : pieces (collapse text) = pieces text :=
  divide_collapse isMark text

/-! ### Tokens and their characters

Which token a piece is depends on the piece alone, and the token has the characters of the piece.  So
the tokens of a text determine its pieces, and its pieces determine its tokens. -/

theorem Token.value_of_mark? {piece : List Char} {mark : Token} (h : mark? piece = some mark) :
    mark.value = piece := by
  unfold mark? at h
  split at h <;> cases h <;> rfl

@[simp] theorem Token.value_ofPiece (set : KeywordSet) (piece : List Char) :
    (ofPiece set piece).value = piece := by
  unfold ofPiece
  split
  · rename_i mark hmark
    exact value_of_mark? hmark
  · split <;> rfl

/-- A token of the kind is a word, no mark. -/
def TokenKind.isWord : TokenKind → Bool
  | keyword | text => true
  | openParen | closeParen | comma | semicolon => false

/-- The token is a word, no mark. -/
def Token.isWord (token : Token) : Bool :=
  token.kind.isWord

@[simp] theorem Token.isWord_ofPiece (set : KeywordSet) (piece : List Char) :
    (ofPiece set piece).isWord = (mark? piece).isNone := by
  unfold ofPiece
  split
  · rename_i mark hmark
    rw [hmark]
    unfold mark? at hmark
    split at hmark <;> cases hmark <;> rfl
  · rename_i hmark
    rw [hmark]
    split <;> rfl

@[simp] theorem map_value_tokenize (set : KeywordSet) (text : List Char) :
    (tokenize set text).map Token.value = pieces text := by
  simp [tokenize, Function.comp_def]

/-- A text whose pieces are the values of the tokens of another text has the same tokens. -/
theorem tokenize_of_pieces_eq {set : KeywordSet} {text other : List Char}
    (h : pieces text = (tokenize set other).map Token.value) :
    tokenize set text = tokenize set other := by
  rw [tokenize, h, map_value_tokenize, tokenize]

theorem pieces_value_of_mem_tokenize {set : KeywordSet} {text : List Char} {token : Token}
    (h : token ∈ tokenize set text) : pieces token.value = [token.value] := by
  obtain ⟨piece, hpiece, rfl⟩ := List.mem_map.1 h
  rw [Token.value_ofPiece]
  exact pieces_of_mem_pieces hpiece

end SqlTidy
