/-
Module: SqlTidy.Proofs.Batches
Purpose: The statements of a batch are formatted each for itself.
Main exports: closingDepth, joinTokens_append_semicolon, KeywordSet.pieces_normalize_append_mark,
  Style.format_append_semicolon, Style.format_intercalate, format_batch
-/
import SqlTidy.Proofs.Gaps

namespace SqlTidy

open Text

/-!
One pass goes over a whole batch, with one depth and one buffer.  At a semicolon nothing of what
came before is left but the depth: the semicolon takes back the blanks before it, ends its line, and
ends every keyword that might have gone on.  So a statement that closes what it opens leaves no trace
on the next one, unless the next one starts with a mark, which would reach back to the semicolon.
-/

/-- The first of the tokens is a word. -/
def startsWithWord (tokens : List Token) : Bool :=
  (tokens.map Token.kind).head?.any TokenKind.isWord

/-- The number of parentheses that are open after the tokens, never counted below zero. -/
def closingDepth (tokens : List Token) : Nat :=
  (tokens.map Token.kind).foldl TokenKind.depthAfter 0

/-! ### The gaps around a semicolon -/

section

variable (unit : List Char)

/-- A semicolon follows any token without a gap, and passes on only the depth. -/
theorem joinAfter_append_semicolon (depth : Nat) (kind : TokenKind) (tokens more : List Token) :
    joinAfter unit depth kind (tokens ++ .semicolon :: more) =
      joinAfter unit depth kind tokens ++
        ';' :: joinAfter unit ((tokens.map Token.kind).foldl TokenKind.depthAfter depth)
          .semicolon more := by
  rw [joinAfter_append_cons]
  simp [Token.kind, Token.value, TokenKind.gap, TokenKind.depthAfter]

theorem joinTokens_append_semicolon (tokens more : List Token) :
    joinTokens unit 0 (tokens ++ .semicolon :: more) =
      joinTokens unit 0 tokens ++ ';' :: joinAfter unit (closingDepth tokens) .semicolon more := by
  cases tokens with
  | nil => simp [joinTokens, closingDepth, Token.kind, Token.value, TokenKind.depthAfter]
  | cons token tokens => simp [joinTokens, joinAfter_append_semicolon, closingDepth]

/-- With no parenthesis open, a word after a semicolon starts a line as the first token would. -/
theorem joinAfter_semicolon_word {token : Token} (htoken : token.kind.isWord = true)
    (tokens : List Token) :
    joinAfter unit 0 .semicolon (token :: tokens) =
      '\n' :: joinTokens unit 0 (token :: tokens) := by
  have hgap : TokenKind.gap unit 0 .semicolon token.kind = ['\n'] := by
    cases token with
    | keyword word => simp [Token.kind, TokenKind.gap, TokenKind.trail, Layout.indentation]
    | text word => simp [Token.kind, TokenKind.gap, TokenKind.trail]
    | openParen => simp [Token.kind, TokenKind.isWord] at htoken
    | closeParen => simp [Token.kind, TokenKind.isWord] at htoken
    | comma => simp [Token.kind, TokenKind.isWord] at htoken
    | semicolon => simp [Token.kind, TokenKind.isWord] at htoken
  simp [joinAfter, joinTokens, hgap]

/-- Two statements with a semicolon between them are joined each for itself. -/
theorem joinTokens_statements {tokens more : List Token} (hdepth : closingDepth tokens = 0)
    (hfirst : startsWithWord more = true) :
    joinTokens unit 0 (tokens ++ .semicolon :: more) =
      joinTokens unit 0 tokens ++ [';', '\n'] ++ joinTokens unit 0 more := by
  cases more with
  | nil => simp [startsWithWord] at hfirst
  | cons token more =>
      have htoken : token.kind.isWord = true := hfirst
      rw [joinTokens_append_semicolon, hdepth, joinAfter_semicolon_word unit htoken more]
      simp

end

/-! ### Keywords on both sides of a mark -/

/-- Normalizing a text with a mark in it is normalizing both sides of the mark. -/
theorem KeywordSet.pieces_normalize_append_mark {set : KeywordSet} (hset : set.WordShaped)
    (casing : Casing) {c : Char} (hc : isMark c = true) (before after : List Char) :
    pieces (set.normalize casing (before ++ c :: after)) =
      pieces (set.normalize casing before) ++ [c] :: pieces (set.normalize casing after) := by
  have heven : EvenlySpaced (collapse before ++ c :: collapse after) :=
    (evenlySpaced_collapse before).append_cons (not_blank_of_isMark hc)
      (evenlySpaced_collapse after)
  have hpieces : pieces (collapse (before ++ c :: after)) =
      pieces (collapse before ++ c :: collapse after) := by
    rw [pieces_collapse, pieces_append_mark hc, pieces_append_mark hc, pieces_collapse,
      pieces_collapse]
  have hmarked : set.markedPieces (collapse (before ++ c :: after)) =
      set.markedPieces (collapse before) ++ [(c, false)] :: set.markedPieces (collapse after) := by
    rw [markedPieces_eq_of_pieces_eq hset (evenlySpaced_collapse _) heven hpieces,
      markedPieces_append_mark hset hc]
  rw [pieces_normalize hset, hmarked, pieces_normalize hset, pieces_normalize hset]
  simp [Casing.recase]

theorem tokenize_append_semicolon (set : KeywordSet) (before after : List Char) :
    tokenize set (before ++ ';' :: after) =
      tokenize set before ++ .semicolon :: tokenize set after := by
  rw [tokenize, pieces_append_mark rfl, List.map_append]
  rfl

/-- A batch starts with a word if its first statement does. -/
theorem startsWithWord_intercalate {set : KeywordSet} {statement : List Char}
    (hfirst : startsWithWord (tokenize set statement) = true) (statements : List (List Char)) :
    startsWithWord (tokenize set ([';'].intercalate (statement :: statements))) = true := by
  cases statements with
  | nil => rwa [List.intercalate_singleton]
  | cons next statements =>
      rw [List.intercalate_cons_cons, List.append_assoc, List.singleton_append,
        tokenize_append_semicolon]
      cases htokens : tokenize set statement with
      | nil => simp [htokens, startsWithWord] at hfirst
      | cons token tokens => simpa [htokens, startsWithWord] using hfirst

namespace Style

variable (style : Style) (hset : style.keywords.WordShaped)
include hset

theorem map_kind_tokenize_normalize (query : List Char) :
    (tokenize style.keywords (style.normalize query)).map Token.kind =
      (tokenize style.keywords query).map Token.kind := by
  rw [map_kind_tokenize, normalize, KeywordSet.map_fold_pieces_normalize hset, ← map_kind_tokenize]

theorem tokenize_normalize_append_semicolon (before after : List Char) :
    tokenize style.keywords (style.normalize (before ++ ';' :: after)) =
      tokenize style.keywords (style.normalize before) ++
        .semicolon :: tokenize style.keywords (style.normalize after) := by
  rw [tokenize, normalize, KeywordSet.pieces_normalize_append_mark hset style.casing rfl,
    List.map_append]
  rfl

/-- A statement that leaves no parenthesis open does not matter to what follows its semicolon, if
that starts with a word. -/
theorem format_append_semicolon {statement rest : List Char}
    (hdepth : closingDepth (tokenize style.keywords statement) = 0)
    (hfirst : startsWithWord (tokenize style.keywords rest) = true) :
    style.format (statement ++ ';' :: rest) =
      style.format statement ++ [';', '\n'] ++ style.format rest := by
  have hdepth' : closingDepth (tokenize style.keywords (style.normalize statement)) = 0 := by
    rw [closingDepth, map_kind_tokenize_normalize style hset]
    exact hdepth
  have hfirst' : startsWithWord (tokenize style.keywords (style.normalize rest)) = true := by
    rw [startsWithWord, map_kind_tokenize_normalize style hset]
    exact hfirst
  rw [format_eq_joinTokens, tokenize_normalize_append_semicolon style hset,
    joinTokens_statements _ hdepth' hfirst', ← format_eq_joinTokens, ← format_eq_joinTokens]

theorem format_nil : style.format [] = [] := by
  have hkinds := map_kind_tokenize_normalize style hset []
  have htokens : tokenize style.keywords (style.normalize []) = [] := List.map_eq_nil_iff.1 hkinds
  rw [format_eq_joinTokens, htokens]
  rfl

/-- A batch is formatted statement by statement.  The induction is on the statements: the first one
ends at its semicolon, and the others are a batch again. -/
theorem format_intercalate {statements : List (List Char)}
    (hfirst : ∀ statement ∈ statements.tail,
      startsWithWord (tokenize style.keywords statement) = true)
    (hdepth : ∀ statement ∈ statements.dropLast,
      closingDepth (tokenize style.keywords statement) = 0) :
    style.format ([';'].intercalate statements) =
      [';', '\n'].intercalate (statements.map style.format) := by
  induction statements with
  | nil => exact format_nil style hset
  | cons statement statements ih =>
      cases statements with
      | nil => simp [List.intercalate_singleton]
      | cons next statements =>
          have hnext := startsWithWord_intercalate (hfirst next List.mem_cons_self) statements
          have hrest := ih (fun other hother => hfirst other (List.mem_cons_of_mem _ hother))
            fun other hother => hdepth other (List.mem_cons_of_mem _ hother)
          rw [List.intercalate_cons_cons, List.append_assoc, List.singleton_append,
            format_append_semicolon style hset (hdepth statement List.mem_cons_self) hnext, hrest]
          simp [List.intercalate_cons_cons]

end Style

/-- The statements of a batch are formatted independently.  If every statement but the first starts
with a word, and every statement but the last leaves no parenthesis open, then formatting the
statements joined by semicolons gives the formatted statements, each on lines of its own after the
semicolon of the one before.  The statements may hold semicolons themselves. -/
theorem format_batch (options : Options) (set : KeywordSet) (size : Int)
    (hkeywords : options.keywords = some set) (hset : set.isWordShaped = true)
    (hindent : options.indentSize = .int size) (hsize : size < 2 ^ 31)
    (statements : List (List Char))
    (hfirst : ∀ statement ∈ statements.tail, startsWithWord (tokenize set statement) = true)
    (hdepth : ∀ statement ∈ statements.dropLast, closingDepth (tokenize set statement) = 0) :
    ∃ outs, statements.map options.format = outs.map Except.ok ∧
      options.format ([';'].intercalate statements) = .ok ([';', '\n'].intercalate outs) := by
  have hformat := Options.format_eq hkeywords hindent hsize
  have hbatch :=
    Style.format_intercalate ⟨size.toNat, Options.casingOf options.keywordCase, set⟩
      (KeywordSet.wordShaped_of_isWordShaped hset) hfirst hdepth
  refine ⟨statements.map (Style.format ⟨size.toNat, Options.casingOf options.keywordCase, set⟩),
    ?_, ?_⟩
  · rw [List.map_map]
    exact List.map_congr_left fun statement _ => hformat statement
  · rw [hformat, hbatch]

/-- A statement with a parenthesis too many, one with a semicolon of its own, and one that leaves a
parenthesis open at the end of the batch. -/
theorem format_batch_unbalanced :
    (∀ statement ∈ ["insert into t; b ".toList, " f(".toList],
      startsWithWord (tokenize .standard statement) = true) ∧
    (∀ statement ∈ ["select a)".toList, "insert into t; b ".toList],
      closingDepth (tokenize .standard statement) = 0) ∧
    ∃ outs, ["select a)".toList, "insert into t; b ".toList, " f(".toList].map (Options.format {}) =
        outs.map Except.ok ∧
      Options.format {} "select a);insert into t; b ; f(".toList =
        .ok ([';', '\n'].intercalate outs) := by
  have hfirst : ∀ statement ∈ ["insert into t; b ".toList, " f(".toList],
      startsWithWord (tokenize .standard statement) = true := by
    decide +kernel
  have hdepth : ∀ statement ∈ ["select a)".toList, "insert into t; b ".toList],
      closingDepth (tokenize .standard statement) = 0 := by
    decide +kernel
  exact ⟨hfirst, hdepth, format_batch {} .standard 2 rfl KeywordSet.isWordShaped_standard rfl
    (by decide) ["select a)".toList, "insert into t; b ".toList, " f(".toList] hfirst hdepth⟩

end SqlTidy
