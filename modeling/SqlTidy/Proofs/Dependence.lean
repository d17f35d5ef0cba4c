/-
Module: SqlTidy.Proofs.Dependence
Purpose: What the output of formatting depends on: of the query, its tokens alone.
Main exports: KeywordSet.pieces_normalize_congr, Style.format_congr,
  Style.map_fold_pieces_of_format_eq, format_eq_of_values_eq
-/
import SqlTidy.Proofs.Passes

namespace SqlTidy

open Text

/-!
Keywords are respelled in the text of a query, before it is divided into tokens, so blanks around a
mark might decide what a keyword is.  They do not: a mark ends every keyword, with blanks around it
or without, and between two words of a keyword only blanks can stand.  Two queries with the same
tokens are therefore the same query to the formatter.
-/

/-- Normalized queries have the same pieces if the queries do. -/
theorem KeywordSet.pieces_normalize_congr {set : KeywordSet} (hset : set.WordShaped)
    (casing : Casing) {query other : List Char} (h : pieces query = pieces other) :
    pieces (set.normalize casing query) = pieces (set.normalize casing other) := by
  have hcollapsed : pieces (collapse query) = pieces (collapse other) := by
    rw [pieces_collapse, pieces_collapse, h]
  have hmarked : set.markedPieces (collapse query) = set.markedPieces (collapse other) :=
    markedPieces_eq_of_pieces_eq hset (evenlySpaced_collapse query) (evenlySpaced_collapse other)
      hcollapsed
  rw [pieces_normalize hset, pieces_normalize hset, hmarked]

theorem Style.format_congr {style : Style} (hset : style.keywords.WordShaped)
    {query other : List Char} (h : pieces query = pieces other) :
    style.format query = style.format other := by
  apply format_eq_of_pieces_eq style style rfl rfl
  exact KeywordSet.pieces_normalize_congr hset style.casing h

/-- The output shows the pieces of a query, up to case. -/
theorem Style.map_fold_pieces_of_format_eq {style : Style} (hset : style.keywords.WordShaped)
    {query other : List Char} (h : style.format query = style.format other) :
    (pieces query).map fold = (pieces other).map fold := by
  rw [← map_fold_pieces_format hset query, h, map_fold_pieces_format hset other]

/-- Formatting reads nothing of a query but its tokens.  Two queries whose tokens have the same
values are formatted alike, however they differ in blanks, and queries that are formatted alike have
tokens that differ in the case of ASCII letters at most. -/
theorem format_eq_of_values_eq (options : Options) (set : KeywordSet) (size : Int)
    (hkeywords : options.keywords = some set) (hset : set.isWordShaped = true)
    (hindent : options.indentSize = .int size) (hsize : size < 2 ^ 31) (query other : List Char) :
    ∃ out out', options.format query = .ok out ∧ options.format other = .ok out' ∧
      ((tokenize set query).map Token.value = (tokenize set other).map Token.value → out = out') ∧
      (out = out' → (tokenize set query).map (fun token => fold token.value) =
        (tokenize set other).map fun token => fold token.value) := by
  have hshaped := KeywordSet.wordShaped_of_isWordShaped hset
  refine ⟨_, _, Options.format_eq hkeywords hindent hsize query,
    Options.format_eq hkeywords hindent hsize other, ?_, ?_⟩
  · intro hvalues
    rw [map_value_tokenize, map_value_tokenize] at hvalues
    exact Style.format_congr hshaped hvalues
  · intro hout
    have hfold : ∀ text, (tokenize set text).map (fun token => fold token.value) =
        (pieces text).map fold := by
      intro text
      rw [← map_value_tokenize set, List.map_map]
      rfl
    rw [hfold, hfold]
    exact Style.map_fold_pieces_of_format_eq hshaped hout

/-- Blanks at both ends, around marks and between the words of a keyword, in one query and not in
the other. -/
theorem format_eq_of_values_eq_spaced :
    KeywordSet.standard.isWordShaped = true ∧ ∃ out,
      Options.format {} "select f(a,b)from c group by d;".toList = .ok out ∧
        Options.format {} "\n select  f ( a , b ) from c group\t  by d ; ".toList = .ok out := by
  have hset : KeywordSet.standard.isWordShaped = true := by decide +kernel
  obtain ⟨out, out', hformat, hformat', heq, _⟩ :=
    format_eq_of_values_eq {} .standard 2 rfl hset rfl (by decide)
      "select f(a,b)from c group by d;".toList
      "\n select  f ( a , b ) from c group\t  by d ; ".toList
  have hvalues : out = out' := heq (by decide +kernel)
  exact ⟨hset, out, hformat, hvalues ▸ hformat'⟩

end SqlTidy
