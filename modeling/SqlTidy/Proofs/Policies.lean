/-
Module: SqlTidy.Proofs.Policies
Purpose: The policy for the case of keywords decides the case of letters and nothing else.
Main exports: fold_joinTokens_congr, Style.fold_format_eq, format_eq_up_to_case
-/
import SqlTidy.Proofs.Gaps

namespace SqlTidy

open Text
open Json (Value)

/-!
The layout reads the text that the policy has already respelled, so a policy might move a line by
making a keyword of a word or the other way round.  It does not: the kinds of the tokens are the
same under every policy, and the gaps are a function of the kinds.
-/

/-- Tokens that agree up to case are followed by the same gaps. -/
theorem fold_joinAfter_congr (unit : List Char) {tokens others : List Token}
    (h : List.Forall₂ Token.AlikeUpToCase tokens others) (depth : Nat) (kind : TokenKind) :
    fold (joinAfter unit depth kind tokens) = fold (joinAfter unit depth kind others) := by
  induction h generalizing depth kind with
  | nil => rfl
  | cons halike _ ih =>
      rw [joinAfter, joinAfter, fold_append, fold_append, fold_append, fold_append, halike.kind,
        halike.value, ih]

theorem fold_joinTokens_congr (unit : List Char) (depth : Nat) {tokens others : List Token}
    (h : List.Forall₂ Token.AlikeUpToCase tokens others) :
    fold (joinTokens unit depth tokens) = fold (joinTokens unit depth others) := by
  cases h with
  | nil => rfl
  | cons halike hrest =>
      rw [joinTokens, joinTokens, fold_append, fold_append, halike.kind, halike.value,
        fold_joinAfter_congr unit hrest]

/-- Styles that differ in their policy at most format a query alike, up to case. -/
theorem Style.fold_format_eq (indent : Nat) (casing other : Casing) {set : KeywordSet}
    (hset : set.WordShaped) (query : List Char) :
    fold (Style.format ⟨indent, casing, set⟩ query) =
      fold (Style.format ⟨indent, other, set⟩ query) := by
  have hpieces : (pieces (set.normalize casing query)).map fold =
      (pieces (set.normalize other query)).map fold := by
    rw [KeywordSet.map_fold_pieces_normalize hset, KeywordSet.map_fold_pieces_normalize hset]
  rw [format_eq_joinTokens, format_eq_joinTokens]
  exact fold_joinTokens_congr _ 0 (forall₂_alikeUpToCase_tokenize set hpieces)

/-- The policy changes the case of letters and nothing else.  Whatever two policies are asked for,
the two outputs are equally long and agree at every place once ASCII letters are folded; a character
of one output that is no ASCII letter stands at the same place of the other, so that lines,
indentation and spacing are the same. -/
theorem format_eq_up_to_case (set : KeywordSet) (hset : set.isWordShaped = true) (size : Int)
    (hsize : size < 2 ^ 31) (keywordCase otherCase : Value) (query : List Char) :
    ∃ out out', Options.format ⟨.int size, keywordCase, some set⟩ query = .ok out ∧
      Options.format ⟨.int size, otherCase, some set⟩ query = .ok out' ∧
      out.length = out'.length ∧ fold out = fold out' ∧
      ∀ (i : Nat) (c : Char), out[i]? = some c → c.isAlpha = false → out'[i]? = some c := by
  have hfold := Style.fold_format_eq size.toNat (Options.casingOf keywordCase)
    (Options.casingOf otherCase) (KeywordSet.wordShaped_of_isWordShaped hset) query
  refine ⟨_, _, Options.format_eq rfl rfl hsize query, Options.format_eq rfl rfl hsize query,
    ?_, hfold, ?_⟩
  · rw [← length_fold, hfold, length_fold]
  · intro i c hc halpha
    have hplace := congrArg (fun text : List Char => text[i]?) hfold
    simp only [fold, List.getElem?_map, hc, Option.map_some] at hplace
    obtain ⟨d, hd, hlower⟩ := Option.map_eq_some_iff.1 hplace.symm
    rw [hd, eq_of_toLower_eq halpha hlower.symm]

/-- A policy that respells keywords and one of no name, on keywords of both cases inside
parentheses. -/
theorem format_eq_up_to_case_nested :
    KeywordSet.standard.isWordShaped = true ∧ ∃ out out',
      Options.format ⟨.int 3, .ofString "upper", some .standard⟩
        "Select a from(select b Order By c)".toList = .ok out ∧
      Options.format ⟨.int 3, .ofString "Lower", some .standard⟩
        "Select a from(select b Order By c)".toList = .ok out' ∧
      out.length = out'.length ∧ fold out = fold out' ∧
      ∀ (i : Nat) (c : Char), out[i]? = some c → c.isAlpha = false → out'[i]? = some c := by
  have hset := KeywordSet.isWordShaped_standard
  exact ⟨hset, format_eq_up_to_case .standard hset 3 (by decide) _ _ _⟩

end SqlTidy
