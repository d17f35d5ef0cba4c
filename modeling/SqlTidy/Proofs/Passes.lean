/-
Module: SqlTidy.Proofs.Passes
Purpose: Formatting a query several times in a row has the effect of one pass: the last one, with the
  last policy that changes keywords.
Main exports: Style.followedBy, Style.format_format, Pass, Pass.runAll, Pass.lastCase,
  runAll_eq_last_pass
-/
import SqlTidy.Proofs.Formatting

namespace SqlTidy

open Text
open Json (Value)

/-!
A second pass reads a text whose blanks the first one has moved.  It finds the same pieces, the
keywords cover the same characters of them, and a character that both passes recase has the case that
the second one gives it.  The layout is a function of the pieces, so two passes are one.
-/

/-! ### Two passes -/

theorem Casing.recase_recase (casing next : Casing) (character : Char × Bool) :
    next.recase (casing.recase character, character.2) =
      (casing.followedBy next).recase character := by
  obtain ⟨c, mark⟩ := character
  cases mark with
  | false => rfl
  | true => exact casing.letter_letter next c

namespace Style

/-- The style that has the effect of one style followed by another. -/
def followedBy (style next : Style) : Style :=
  ⟨next.indent, style.casing.followedBy next.casing, next.keywords⟩

/-- The output is a function of the pieces of the normalized query, the indentation and the
keywords. -/
theorem format_eq_of_pieces_eq (style other : Style) (hindent : style.indent = other.indent)
    (hkeywords : style.keywords = other.keywords) {query text : List Char}
    (hpieces : pieces (style.normalize query) = pieces (other.normalize text)) :
    style.format query = other.format text := by
  rw [format, format, layout, layout, tokenize, tokenize, hpieces, hkeywords, indentUnit,
    indentUnit, hindent]

/-- A formatted query has the marked pieces of the query, recased. -/
theorem markedPieces_collapse_format {style : Style} (hset : style.keywords.WordShaped)
    (query : List Char) :
    style.keywords.markedPieces (collapse (style.format query)) =
      (style.keywords.markedPieces (collapse query)).map
        (List.map fun character => (style.casing.recase character, character.2)) := by
  have hpieces : pieces (collapse (style.format query)) = pieces (style.normalize query) := by
    rw [pieces_collapse, pieces_format]
  have heven : EvenlySpaced (style.normalize query) :=
    KeywordSet.evenlySpaced_normalize hset style.casing query
  rw [KeywordSet.markedPieces_eq_of_pieces_eq hset (evenlySpaced_collapse _) heven hpieces]
  exact KeywordSet.markedPieces_normalize hset style.casing query

/-- Formatting a formatted query with the same keywords is formatting the query once. -/
theorem format_format (style next : Style) (hkeywords : next.keywords = style.keywords)
    (hset : style.keywords.WordShaped) (query : List Char) :
    next.format (style.format query) = (style.followedBy next).format query := by
  refine format_eq_of_pieces_eq next (style.followedBy next) rfl rfl ?_
  calc pieces (next.keywords.normalize next.casing (style.format query))
      = ((style.keywords.markedPieces (collapse query)).map
          (List.map fun character => (style.casing.recase character, character.2))).map
            (List.map next.casing.recase) := by
        rw [hkeywords, KeywordSet.pieces_normalize hset, markedPieces_collapse_format hset]
    _ = (style.keywords.markedPieces (collapse query)).map
          (List.map (style.casing.followedBy next.casing).recase) := by
        simp [Function.comp_def, Casing.recase_recase]
    _ = pieces (next.keywords.normalize (style.casing.followedBy next.casing) query) := by
        rw [hkeywords, KeywordSet.pieces_normalize hset]

end Style

/-! ### A run of passes -/

/-- What one pass is asked for: the case of keywords, and the indent size. -/
structure Pass where
  keywordCase : Value
  indentSize : Int

namespace Pass

/-- The options of a pass with a set of keywords. -/
def options (set : KeywordSet) (pass : Pass) : Options :=
  ⟨.int pass.indentSize, pass.keywordCase, some set⟩

/-- Formats a query with the first pass, and each result with the next one. -/
def runAll (set : KeywordSet) (passes : List Pass) (query : List Char) :
    Except Fault (List Char) :=
  passes.foldlM (fun text pass => (pass.options set).format text) query

/-- The pass asks for one of the two policies that change keywords. -/
def changesCase (pass : Pass) : Bool :=
  pass.keywordCase.isString "upper" || pass.keywordCase.isString "lower"

/-- The last case in the list that is `upper` or `lower`, and `keep` if there is none. -/
def lastCase (passes : List Pass) : Value :=
  ((passes.filter changesCase).getLast?.map keywordCase).getD (.ofString "keep")

/-- The last case is decided by the last pass, or else by the passes before it. -/
theorem casingOf_lastCase_concat (passes : List Pass) (last : Pass) :
    Options.casingOf (lastCase (passes ++ [last])) =
      (Options.casingOf (lastCase passes)).followedBy (Options.casingOf last.keywordCase) := by
  by_cases hupper : last.keywordCase.isString "upper" = true
  · simp [lastCase, changesCase, Options.casingOf, hupper, Casing.followedBy]
  · by_cases hlower : last.keywordCase.isString "lower" = true
    · simp [lastCase, changesCase, Options.casingOf, hupper, hlower, Casing.followedBy]
    · simp [lastCase, changesCase, Options.casingOf, hupper, hlower, Casing.followedBy]

theorem casingOf_lastCase_nil : Options.casingOf (lastCase []) = .keep := by
  decide

theorem runAll_concat {set : KeywordSet} {passes : List Pass} {query text : List Char}
    (h : runAll set passes query = .ok text) (last : Pass) :
    runAll set (passes ++ [last]) query = (last.options set).format text := by
  unfold runAll at h
  rw [runAll, List.foldlM_append, h]
  exact bind_pure ((last.options set).format text)

/-- A run of passes, at least one, formats the query once.  The induction adds a pass at the end. -/
theorem runAll_eq {set : KeywordSet} (hset : set.WordShaped) {passes : List Pass}
    (hsize : ∀ pass ∈ passes, pass.indentSize < 2 ^ 31) (hne : passes ≠ []) (query : List Char) :
    runAll set passes query =
      .ok (Style.format ⟨(passes.getLast hne).indentSize.toNat,
        Options.casingOf (lastCase passes), set⟩ query) := by
  induction passes using List.reverseRecOn with
  | nil => exact absurd rfl hne
  | append_singleton front last ih =>
      have hlast : ∀ text, (last.options set).format text =
          .ok (Style.format ⟨last.indentSize.toNat, Options.casingOf last.keywordCase, set⟩ text) :=
        fun text => Options.format_eq rfl rfl (hsize last (by simp)) text
      rw [List.getLast_append_singleton, casingOf_lastCase_concat]
      by_cases hfront : front = []
      · subst hfront
        rw [runAll_concat rfl, hlast, casingOf_lastCase_nil, Casing.keep_followedBy]
      · have hrun := ih (fun pass hpass => hsize pass (by simp [hpass])) hfront
        have htwo := Style.format_format
          ⟨(front.getLast hfront).indentSize.toNat, Options.casingOf (lastCase front), set⟩
          ⟨last.indentSize.toNat, Options.casingOf last.keywordCase, set⟩ rfl hset query
        rw [runAll_concat hrun, hlast, htwo, Style.followedBy]

end Pass

/-- The last pass wins.  Formatting a query with pass after pass, all with the same keywords, ends in
what the last indent size and the last case among them that is `upper` or `lower` give at once, and
no pass fails.  One pass repeated changes nothing, and a pass that keeps the case keeps what the
passes before it have decided. -/
theorem runAll_eq_last_pass (set : KeywordSet) (hset : set.isWordShaped = true)
    (passes : List Pass) (hne : passes ≠ [])
    (hsize : ∀ pass ∈ passes, pass.indentSize < 2 ^ 31) (query : List Char) :
    ∃ out, Pass.runAll set passes query = .ok out ∧
      Options.format ⟨.int (passes.getLast hne).indentSize, Pass.lastCase passes, some set⟩ query =
        .ok out := by
  have hlast : (passes.getLast hne).indentSize < 2 ^ 31 := hsize _ (List.getLast_mem hne)
  refine ⟨_, Pass.runAll_eq (KeywordSet.wordShaped_of_isWordShaped hset) hsize hne query, ?_⟩
  exact Options.format_eq rfl rfl hlast query

/-- Capital spelling, then small, then two passes that keep it, with sizes of both signs. -/
theorem runAll_eq_last_pass_kept :
    KeywordSet.standard.isWordShaped = true ∧ ∃ out, Pass.runAll .standard
        [⟨.ofString "upper", 4⟩, ⟨.ofString "lower", -1⟩, ⟨.ofString "LOWER", 0⟩,
          ⟨.ofString "keep", 2⟩] "Select a,(b)Group\tBy c".toList = .ok out ∧
      Options.format ⟨.int 2, .ofString "lower", some .standard⟩
        "Select a,(b)Group\tBy c".toList = .ok out := by
  have hsize : ∀ pass ∈ ([⟨.ofString "upper", 4⟩, ⟨.ofString "lower", -1⟩, ⟨.ofString "LOWER", 0⟩,
      ⟨.ofString "keep", 2⟩] : List Pass), pass.indentSize < 2 ^ 31 := by
    simp
  have hset : KeywordSet.standard.isWordShaped = true := by decide +kernel
  exact ⟨hset, runAll_eq_last_pass .standard hset _ (by simp) hsize _⟩

end SqlTidy
