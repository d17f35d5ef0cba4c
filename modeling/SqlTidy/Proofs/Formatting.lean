/-
Module: SqlTidy.Proofs.Formatting
Purpose: Formatting a query keeps its tokens, up to the case of ASCII letters.
Main exports: Options.format_eq, KeywordSet.map_fold_pieces_normalize, Style.pieces_format,
  map_kind_tokenize, Token.AlikeUpToCase, tokenize_format_alike
-/
import SqlTidy.Options
import SqlTidy.Proofs.Layout
import SqlTidy.Proofs.Marking

namespace SqlTidy

open Text

/-- Options with keywords and an integer below the bound as indent size amount to a style.  A size
that is not positive counts as zero. -/
theorem Options.format_eq {options : Options} {set : KeywordSet} {size : Int}
    (hkeywords : options.keywords = some set) (hindent : options.indentSize = .int size)
    (hsize : size < 2 ^ 31) (query : List Char) :
    options.format query =
      .ok (Style.format ⟨size.toNat, casingOf options.keywordCase, set⟩ query) := by
  have hrange : ¬ sizeBound ≤ size := by
    unfold sizeBound
    omega
  have hmemory : ¬ lengthBound ≤ size := by
    unfold lengthBound
    omega
  have hstyle : options.style = .ok ⟨size.toNat, casingOf options.keywordCase, set⟩ := by
    rw [style, hkeywords, indent, hindent]
    simp only [hrange, hmemory, if_false]
    rfl
  rw [format, hstyle]
  rfl

/-- Normalizing keeps the pieces of a query, up to case. -/
theorem KeywordSet.map_fold_pieces_normalize {set : KeywordSet} (hset : set.WordShaped)
    (casing : Casing) (query : List Char) :
    (pieces (set.normalize casing query)).map fold = (pieces query).map fold := by
  rw [← pieces_fold, fold_normalize hset, pieces_fold, pieces_collapse]

namespace Style

theorem isBlank_of_mem_indentUnit (style : Style) : ∀ c ∈ style.indentUnit, isBlank c = true := by
  intro c hc
  obtain ⟨_, rfl⟩ := List.mem_replicate.1 hc
  rfl

/-- The layout of a query keeps the pieces that normalizing has left. -/
theorem pieces_format (style : Style) (query : List Char) :
    pieces (style.format query) = pieces (style.normalize query) :=
  pieces_layout style.keywords style.isBlank_of_mem_indentUnit (style.normalize query)

theorem map_fold_pieces_format {style : Style} (hset : style.keywords.WordShaped)
    (query : List Char) :
    (pieces (style.format query)).map fold = (pieces query).map fold := by
  rw [pieces_format, normalize, KeywordSet.map_fold_pieces_normalize hset]

end Style

/-! ### Tokens up to case -/

/-- The kinds of the tokens of a text are those of its folded pieces. -/
theorem map_kind_tokenize (set : KeywordSet) (text : List Char) :
    (tokenize set text).map Token.kind =
      ((pieces text).map fold).map fun piece => (Token.ofPiece set piece).kind := by
  simp [tokenize, Token.kind_ofPiece_fold, Function.comp_def]

/-- Two tokens are of one kind and have the same characters, up to the case of ASCII letters. -/
structure Token.AlikeUpToCase (token other : Token) : Prop where
  kind : token.kind = other.kind
  value : fold token.value = fold other.value

theorem Token.alikeUpToCase_ofPiece (set : KeywordSet) {piece other : List Char}
    (h : fold piece = fold other) : AlikeUpToCase (ofPiece set piece) (ofPiece set other) where
  kind := by rw [← kind_ofPiece_fold, h, kind_ofPiece_fold]
  value := by simpa using h

/-- Texts whose pieces agree up to case have tokens that agree up to case. -/
theorem forall₂_alikeUpToCase_tokenize (set : KeywordSet) {text other : List Char}
    (h : (pieces text).map fold = (pieces other).map fold) :
    List.Forall₂ Token.AlikeUpToCase (tokenize set text) (tokenize set other) := by
  have hfolded : List.Forall₂ Eq ((pieces text).map fold) ((pieces other).map fold) := by
    rw [List.forall₂_eq_eq_eq]
    exact h
  rw [List.forall₂_map_left_iff, List.forall₂_map_right_iff] at hfolded
  rw [tokenize, tokenize, List.forall₂_map_left_iff, List.forall₂_map_right_iff]
  exact hfolded.imp fun piece other hfold => Token.alikeUpToCase_ofPiece set hfold

/-- Formatting keeps the tokens of a query.  The formatted query has as many tokens as the query has,
and tokens at the same place are of the same kind and differ in the case of ASCII letters at most:
no token is lost, split, merged or moved, whatever is asked for as the case of keywords. -/
theorem tokenize_format_alike (options : Options) (set : KeywordSet) (size : Int)
    (hkeywords : options.keywords = some set) (hset : set.isWordShaped = true)
    (hindent : options.indentSize = .int size) (hsize : size < 2 ^ 31) (query : List Char) :
    ∃ out, options.format query = .ok out ∧
      List.Forall₂ Token.AlikeUpToCase (tokenize set out) (tokenize set query) := by
  refine ⟨_, Options.format_eq hkeywords hindent hsize query, ?_⟩
  apply forall₂_alikeUpToCase_tokenize
  exact Style.map_fold_pieces_format (KeywordSet.wordShaped_of_isWordShaped hset) query

/-- A keyword next to a letter of another alphabet, with a negative size and a policy of no name. -/
theorem tokenize_format_alike_accented :
    KeywordSet.standard.isWordShaped = true ∧ (-3 : Int) < 2 ^ 31 ∧
      ∃ out, Options.format ⟨.int (-3), .ofString "Upper", some .standard⟩ "señor(a)from".toList =
          .ok out ∧
        List.Forall₂ Token.AlikeUpToCase (tokenize .standard out)
          (tokenize .standard "señor(a)from".toList) :=
  ⟨by decide +kernel, by decide,
    tokenize_format_alike _ .standard (-3) rfl (by decide +kernel) rfl (by decide) _⟩

end SqlTidy
