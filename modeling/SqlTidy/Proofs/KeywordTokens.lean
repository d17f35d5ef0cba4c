/-
Module: SqlTidy.Proofs.KeywordTokens
Purpose: The tokens that count as keywords are keywords to the respelling too, so that none of them
  keeps the case of the query.
Main exports: Keyword.covers_of_singleton, KeywordSet.exists_word_of_contains,
  KeywordSet.marked_of_contains, KeywordSet.map_recase_of_contains, keyword_tokens_canonical
-/
import SqlTidy.Proofs.Identifiers
import SqlTidy.Proofs.Places

namespace SqlTidy

open Text

/-!
Two definitions say what a keyword is.  The respelling looks for the words of a keyword between word
boundaries of the collapsed query; the tokens are looked up whole in the set.  A token that is found
in the set has no blank in it, so it is a keyword of one word, and it stands between blanks, marks
and the ends of the text, which are word boundaries.  A keyword of one word takes every place where
it stands.
-/

/-! ### Keywords of one word -/

/-- A keyword of one word covers every run that is the word, whatever its case: no place before it
can reach as far. -/
theorem Keyword.covers_of_singleton {keyword : Keyword} {word before middle after : List Char}
    (hwords : keyword.words = [word])
    (hruns : runs (before ++ (middle ++ after)) = runs before ++ (runs middle ++ runs after))
    (hmiddle : runs middle = [middle]) (hfold : fold word = fold middle) {index : Nat}
    (hindex : index < middle.length) :
    keyword.Covers (before ++ (middle ++ after)) (before.length + index) := by
  have hstands : StandsAt keyword.words (runs (before ++ (middle ++ after)))
      (runs before).length := by
    rw [StandsAt, hwords, hruns, hmiddle, List.drop_left]
    simpa [matchesRuns] using hfold
  have hwidth : width keyword.words = 1 := by
    rw [hwords]
    rfl
  have hstart : charsBefore (runs (before ++ (middle ++ after))) (runs before).length =
      before.length := by
    rw [charsBefore, hruns, List.take_left, flatten_runs]
  have hend : charsBefore (runs (before ++ (middle ++ after))) ((runs before).length + 1) =
      before.length + middle.length := by
    rw [charsBefore, hruns, hmiddle, List.take_length_add_append]
    simp [flatten_runs]
  refine ⟨(runs before).length, takenAt_iff.2 ⟨hstands, ?_⟩, ?_, ?_⟩
  · intro earlier hearlier _
    omega
  · rw [hstart]
    omega
  · rw [hwidth, hend]
    omega

/-! ### Tokens in the set -/

namespace Token

theorem eq_keyword_of_kind {token : Token} (h : token.kind = .keyword) :
    token = .keyword token.value := by
  cases token with
  | keyword word => rfl
  | openParen => cases h
  | closeParen => cases h
  | comma => cases h
  | semicolon => cases h
  | text word => cases h

/-- A keyword token is a piece that the set contains. -/
theorem contains_of_kind_ofPiece {set : KeywordSet} {piece : List Char}
    (h : (ofPiece set piece).kind = .keyword) : set.contains piece = true := by
  unfold ofPiece at h
  split at h
  · -- A mark is no keyword.
    rename_i mark hmark
    unfold mark? at hmark
    split at hmark <;> cases hmark <;> cases h
  · split at h
    · assumption
    · cases h

end Token

namespace KeywordSet

variable {set : KeywordSet} (hset : set.WordShaped)
include hset

/-- A text without blanks that the set contains is a keyword of one word. -/
theorem exists_word_of_contains {text : List Char} (hne : text ≠ [])
    (hblank : ∀ c ∈ text, isBlank c = false) (h : set.contains text = true) :
    ∃ keyword ∈ set.keywords, keyword.words = [text.map Char.toUpper] := by
  simp only [contains, Bool.and_eq_true, List.contains_iff_mem] at h
  obtain ⟨hascii, hmem⟩ := h
  obtain ⟨keyword, hkeyword, hspelling⟩ := List.mem_map.1 hmem
  rw [upper_eq_map_toUpper hascii] at hspelling
  refine ⟨keyword, hkeyword, ?_⟩
  have hrun : ∀ c ∈ text.map Char.toUpper, breaks isBlank (fun _ => false) c = false := by
    intro c hc
    obtain ⟨d, hd, rfl⟩ := List.mem_map.1 hc
    have hcase : isBlank d.toUpper = isBlank d :=
      apply_eq_of_toLower_eq isBlank_toLower (Char.toLower_toUpper_eq_toLower d)
    rw [breaks, hcase, hblank d hd]
    rfl
  calc keyword.words
      = Text.words keyword.spelling := (Keyword.words_spelling (hset keyword hkeyword)).symm
    _ = Text.words (text.map Char.toUpper) := by rw [hspelling]
    _ = [text.map Char.toUpper] := divide_eq_singleton (by simpa using hne) hrun

/-- A piece that the set contains is covered as a whole. -/
theorem marked_of_contains {text : List Char} {piece : List (Char × Bool)}
    (hpiece : piece ∈ set.markedPieces text)
    (hcontains : set.contains (piece.map Prod.fst) = true) :
    ∀ character ∈ piece, character.2 = true := by
  obtain ⟨hne, hblank⟩ := not_blank_of_mem_pieces (map_fst_mem_pieces hpiece)
  obtain ⟨keyword, hkeyword, hwords⟩ := exists_word_of_contains hset hne hblank hcontains
  have hfold : fold ((piece.map Prod.fst).map Char.toUpper) = fold (piece.map Prod.fst) := by
    simp [fold]
  have hword : ∀ c ∈ piece.map Prod.fst, Keyword.isWordChar c = true := by
    apply Keyword.isWordChar_of_fold_eq hfold
    apply (hset keyword hkeyword).isWordChar
    rw [hwords]
    exact List.mem_singleton_self _
  have hmark : ∀ character ∈ piece, isMark character.1 = false := by
    intro character hcharacter
    apply Bool.eq_false_iff.2
    intro hmark
    have hon := hword character.1 (List.mem_map_of_mem hcharacter)
    rw [Keyword.isWordChar_of_isMark hmark] at hon
    exact absurd hon (by simp)
  obtain ⟨before, after, htext, hfst, hruns⟩ := exists_context_of_mem_markedPieces hpiece hmark
  have hsingle : runs (piece.map Prod.fst) = [piece.map Prod.fst] :=
    divide_eq_singleton hne fun c hc => by simp [breaks, hword c hc]
  intro character hcharacter
  -- The keyword covers the character by its number in the text, and so the set does.
  obtain ⟨index, hindex⟩ := List.mem_iff_getElem?.1 hcharacter
  have hlt : index < piece.length := (List.getElem?_eq_some_iff.1 hindex).1
  have hmarked : (set.marked text)[before.length + index]? = some character := by
    rw [htext, List.getElem?_append_right (by omega), Nat.add_sub_cancel_left,
      List.getElem?_append_left hlt, hindex]
  have hcovers := Keyword.covers_of_singleton hwords hruns hsingle hfold
    (show index < (piece.map Prod.fst).length by simpa using hlt)
  rw [hfst, List.length_map] at hcovers
  have hcoverage := (set.coverage_eq_true_iff text _).2 ⟨keyword, hkeyword, hcovers⟩
  rw [(List.getElem?_zip_eq_some.1 hmarked).2] at hcoverage
  exact Option.some.inj hcoverage

/-- A piece that the set contains is recased as a whole. -/
theorem map_recase_of_contains (casing : Casing) {text : List Char} {piece : List (Char × Bool)}
    (hpiece : piece ∈ set.markedPieces text)
    (hcontains : set.contains (piece.map Prod.fst) = true) :
    piece.map casing.recase = (piece.map Prod.fst).map casing.letter := by
  have hmarked := marked_of_contains hset hpiece hcontains
  rw [List.map_map]
  apply List.map_congr_left
  intro character hcharacter
  rw [Casing.recase, hmarked character hcharacter]
  rfl

end KeywordSet

/-! ### Keyword tokens before and after formatting -/

namespace Style

variable (style : Style) (hset : style.keywords.WordShaped)
include hset

/-- A keyword token of the query is a keyword token of the formatted query, at the same place and
with the case of the policy throughout. -/
theorem getElem?_tokenize_format_keyword {query : List Char} {i : Nat} {word : List Char}
    (h : (tokenize style.keywords query)[i]? = some (.keyword word)) :
    (tokenize style.keywords (style.format query))[i]? =
        some (.keyword (word.map style.casing.letter)) ∧
      word.map Char.toUpper ∈ style.keywords.spellings := by
  rw [tokenize_eq_map_markedPieces, List.getElem?_map] at h
  obtain ⟨piece, hpiece, htoken⟩ := Option.map_eq_some_iff.1 h
  have hmem := List.mem_of_getElem? hpiece
  have hvalue : piece.map Prod.fst = word := by
    rw [← Token.value_ofPiece style.keywords (piece.map Prod.fst), htoken]
    rfl
  have hcontains : style.keywords.contains (piece.map Prod.fst) = true :=
    Token.contains_of_kind_ofPiece (by rw [htoken]; rfl)
  have hrecase : piece.map style.casing.recase = word.map style.casing.letter := by
    rw [KeywordSet.map_recase_of_contains hset style.casing hmem hcontains, hvalue]
  constructor
  · have hkind : (Token.ofPiece style.keywords (word.map style.casing.letter)).kind = .keyword := by
      have halike := Token.alikeUpToCase_ofPiece style.keywords
        (show fold (word.map style.casing.letter) = fold (piece.map Prod.fst) by
          simp [hvalue, fold, Function.comp_def])
      rw [halike.kind, htoken]
      rfl
    have heq := Token.eq_keyword_of_kind hkind
    rw [Token.value_ofPiece] at heq
    rw [tokenize_format hset, List.getElem?_map, hpiece, Option.map_some, hrecase, heq]
  · rw [KeywordSet.contains, Bool.and_eq_true, List.contains_iff_mem, hvalue] at hcontains
    rw [← upper_eq_map_toUpper hcontains.1]
    exact hcontains.2

/-- Every keyword token of the formatted query is some spelling of a keyword, with the case of the
policy throughout. -/
theorem exists_word_of_mem_tokenize_format {query : List Char} {token : Token}
    (h : token ∈ tokenize style.keywords (style.format query)) (hkind : token.kind = .keyword) :
    ∃ word : List Char, word.map Char.toUpper ∈ style.keywords.spellings ∧
      token.value = word.map style.casing.letter := by
  obtain ⟨i, hi⟩ := List.mem_iff_getElem?.1 h
  have hkinds : (tokenize style.keywords (style.format query)).map Token.kind =
      (tokenize style.keywords query).map Token.kind := by
    rw [map_kind_tokenize, map_fold_pieces_format hset, ← map_kind_tokenize]
  have hbefore : ((tokenize style.keywords query)[i]?).map Token.kind = some .keyword := by
    rw [← List.getElem?_map, ← hkinds, List.getElem?_map, hi, Option.map_some, hkind]
  obtain ⟨other, hother, hkind'⟩ := Option.map_eq_some_iff.1 hbefore
  rw [Token.eq_keyword_of_kind hkind'] at hother
  obtain ⟨hafter, hspelling⟩ := getElem?_tokenize_format_keyword style hset hother
  refine ⟨other.value, hspelling, ?_⟩
  rw [hi] at hafter
  exact congrArg Token.value (Option.some.inj hafter)

end Style

/-- The tokens that count as keywords are spelled by the policy.  In a query formatted with capital
keywords every keyword token is one of the canonical spellings of the set, and with small keywords
it is one of them in small letters; whatever case a keyword token of the query has, none of it is
left. -/
theorem keyword_tokens_canonical (set : KeywordSet) (hset : set.isWordShaped = true) (size : Int)
    (hsize : size < 2 ^ 31) (query : List Char) :
    (∃ out, Options.format ⟨.int size, .ofString "upper", some set⟩ query = .ok out ∧
      (∀ token ∈ tokenize set out, token.kind = .keyword → token.value ∈ set.spellings) ∧
      ∀ (i : Nat) (word : List Char), (tokenize set query)[i]? = some (.keyword word) →
        (tokenize set out)[i]? = some (.keyword (word.map Char.toUpper))) ∧
    ∃ out, Options.format ⟨.int size, .ofString "lower", some set⟩ query = .ok out ∧
      (∀ token ∈ tokenize set out, token.kind = .keyword →
        ∃ spelling ∈ set.spellings, token.value = fold spelling) ∧
      ∀ (i : Nat) (word : List Char), (tokenize set query)[i]? = some (.keyword word) →
        (tokenize set out)[i]? = some (.keyword (fold word)) := by
  have hshaped := KeywordSet.wordShaped_of_isWordShaped hset
  have hupper : Options.casingOf (.ofString "upper") = .upper := by decide
  have hlower : Options.casingOf (.ofString "lower") = .lower := by decide
  refine ⟨⟨Style.format ⟨size.toNat, .upper, set⟩ query, ?_, ?_, ?_⟩,
    Style.format ⟨size.toNat, .lower, set⟩ query, ?_, ?_, ?_⟩
  · rw [← hupper]
    exact Options.format_eq rfl rfl hsize query
  · intro token htoken hkind
    obtain ⟨word, hspelling, hvalue⟩ :=
      Style.exists_word_of_mem_tokenize_format ⟨size.toNat, .upper, set⟩ hshaped htoken hkind
    rw [hvalue]
    exact hspelling
  · intro i word hword
    exact (Style.getElem?_tokenize_format_keyword ⟨size.toNat, .upper, set⟩ hshaped hword).1
  · rw [← hlower]
    exact Options.format_eq rfl rfl hsize query
  · intro token htoken hkind
    obtain ⟨word, hspelling, hvalue⟩ :=
      Style.exists_word_of_mem_tokenize_format ⟨size.toNat, .lower, set⟩ hshaped htoken hkind
    refine ⟨_, hspelling, ?_⟩
    rw [hvalue]
    simp [fold, Casing.letter]
  · intro i word hword
    exact (Style.getElem?_tokenize_format_keyword ⟨size.toNat, .lower, set⟩ hshaped hword).1

/-- A keyword that is also the end of a longer one, and a keyword next to a mark. -/
theorem keyword_tokens_canonical_join :
    KeywordSet.standard.isWordShaped = true ∧
      (∃ out, Options.format ⟨.int (-1), .ofString "upper", some .standard⟩
          "x Left\tjOIN y,unioN".toList = .ok out ∧
        (tokenize .standard out)[2]? = some (Token.keyword "JOIN".toList) ∧
        (tokenize .standard out)[5]? = some (Token.keyword "UNION".toList)) ∧
      ∃ out, Options.format ⟨.int (-1), .ofString "lower", some .standard⟩
          "x Left\tjOIN y,unioN".toList = .ok out ∧
        (tokenize .standard out)[2]? = some (Token.keyword "join".toList) ∧
        (tokenize .standard out)[5]? = some (Token.keyword "union".toList) := by
  have hset := KeywordSet.isWordShaped_standard
  have hjoin : (tokenize .standard "x Left\tjOIN y,unioN".toList)[2]? =
      some (Token.keyword "jOIN".toList) := by
    decide +kernel
  have hunion : (tokenize .standard "x Left\tjOIN y,unioN".toList)[5]? =
      some (Token.keyword "unioN".toList) := by
    decide +kernel
  obtain ⟨⟨out, hout, _, hupper⟩, out', hout', _, hlower⟩ :=
    keyword_tokens_canonical .standard hset (-1) (by decide) "x Left\tjOIN y,unioN".toList
  exact ⟨hset, ⟨out, hout, hupper 2 _ hjoin, hupper 5 _ hunion⟩,
    out', hout', hlower 2 _ hjoin, hlower 5 _ hunion⟩

end SqlTidy
