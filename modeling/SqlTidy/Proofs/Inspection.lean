/-
Module: SqlTidy.Proofs.Inspection
Purpose: A formatted query has no line ends but line feeds, so the lines that an inspection numbers
  are the lines of the formatted query.
Main exports: Text.splitLines_eq_splitOn, Style.splitLines_format, Inspection.Numbers,
  Inspection.numbers_run, Inspection.format_lines_shown_by_inspection
-/
import SqlTidy.CommandLine.Inspection
import SqlTidy.Files.Tree
import SqlTidy.Proofs.Encoding
import SqlTidy.Proofs.Lines

namespace SqlTidy

open Text
open Json (Value)

/-!
A text divides into lines at ten characters, of which a formatted query has only the line feed: the
others are blanks, and no blank of the query outlives the division into tokens.  A report shows the
lines one by one, so nothing but their ends is lost in it, and these are all alike.
-/

/-! ### Lines -/

namespace Text

theorem isBlank_of_isLineEnd {c : Char} (h : isLineEnd c = true) : isBlank c = true := by
  simp only [isLineEnd, isBlank, Bool.or_eq_true, Bool.and_eq_true, decide_eq_true_eq,
    beq_iff_eq] at h ⊢
  omega

/-- The lines of a text whose only line ends are line feeds.  The text goes on after the last of
them, since an end of a line at the end of the text would start no line. -/
theorem splitLinesFrom_eq (done : List (List Char)) {line text : List Char}
    (hline : '\n' ∉ line) (htext : ∀ c ∈ text, isLineEnd c = true → c = '\n')
    (hlast : text.getLast? ≠ some '\n') (hne : line ≠ [] ∨ text ≠ []) :
    splitLinesFrom done line text = done.reverse ++ (line.reverse ++ text).splitOn '\n' := by
  fun_induction splitLinesFrom done line text with
  | case1 done line =>
      have hline' : line ≠ [] := by simpa using hne
      rw [List.append_nil, List.splitOn_eq_singleton (by simpa using hline)]
      simp [hline']
  | case2 => exact absurd (htext '\r' List.mem_cons_self rfl) (by decide)
  | case3 done line c rest _ hend ih =>
      obtain rfl := htext c List.mem_cons_self hend
      -- The line feed is not the last character.
      have hrest : rest ≠ [] := by
        rintro rfl
        exact hlast rfl
      have hlast' : rest.getLast? ≠ some '\n' := by
        rwa [List.getLast?_cons_of_ne_nil hrest] at hlast
      rw [ih (by simp) (fun d hd => htext d (List.mem_cons_of_mem _ hd)) hlast' (Or.inr hrest),
        List.splitOn_append_cons_self_of_not_mem (by simpa using hline)]
      simp
  | case4 done line c rest _ hend ih =>
      have hc : c ≠ '\n' := by
        rintro rfl
        exact hend rfl
      have hlast' : rest.getLast? ≠ some '\n' := by
        intro hrest
        apply hlast
        rw [List.getLast?_cons, hrest]
        rfl
      have hline' : '\n' ∉ c :: line := by simp [hc.symm, hline]
      rw [ih hline' (fun d hd => htext d (List.mem_cons_of_mem _ hd)) hlast'
        (Or.inl (List.cons_ne_nil c line))]
      simp

theorem splitLines_eq_splitOn {text : List Char}
    (htext : ∀ c ∈ text, isLineEnd c = true → c = '\n') (hlast : text.getLast? ≠ some '\n')
    (hne : text ≠ []) : splitLines text = text.splitOn '\n' := by
  rw [splitLines, splitLinesFrom_eq [] (by simp) htext hlast (Or.inr hne)]
  rfl

end Text

namespace Style

variable (style : Style) (query : List Char)

theorem not_blank_of_head?_format : ∀ c ∈ (style.format query).head?, isBlank c = false :=
  not_blank_of_head?_trim

theorem not_blank_of_getLast?_format : ∀ c ∈ (style.format query).getLast?, isBlank c = false :=
  not_blank_of_getLast?_trimEnd

/-- The lines of a formatted query are what stands between its line feeds. -/
theorem splitLines_format (hne : style.format query ≠ []) :
    splitLines (style.format query) = (style.format query).splitOn '\n' := by
  apply splitLines_eq_splitOn _ _ hne
  · intro c hc hend
    rcases eq_of_isBlank_of_mem_format (isBlank_of_isLineEnd hend) hc with rfl | rfl
    · exact absurd hend (by decide)
    · rfl
  · intro hlast
    exact absurd (not_blank_of_getLast?_format style query _ hlast) (by decide)

/-- The lines of a formatted query, with a line feed between neighbours, are the formatted query. -/
theorem intercalate_splitLines_format :
    ['\n'].intercalate (splitLines (style.format query)) = style.format query := by
  by_cases hne : style.format query = []
  · rw [hne]
    rfl
  · rw [splitLines_format style query hne]
    exact List.intercalate_splitOn '\n'

end Style

/-! ### Reports -/

namespace CommandLine.Inspection

/-- The run succeeds, and the last section of its report numbers the lines, with their blanks made
visible. -/
def Numbers (result : Run) (lines : List (List Char)) : Prop :=
  ∃ before, result = {
    ending := .exit 0
    stdout := before ++ "\n=== Layout (with visible spaces) ===\n" ++
      String.join (numberedLines 1 lines) }

/-- The lines that a report numbers are those of the formatted query. -/
theorem numbers_report (casing : Casing) (text : List Char) :
    Numbers { ending := .exit 0, stdout := report casing text }
      (splitLines (Style.format ⟨2, casing, .standard⟩ text)) :=
  ⟨_, rfl⟩

/-- What the argument after the file asks for as the case of keywords: capitals if there is none. -/
def keywordCaseOf (name : Option (List Char)) : Value :=
  (name.map Value.ofChars).getD (.ofString "upper")

theorem numbers_run {view : FileView} {file : List Char} {text : List Char}
    (hread : view.readText (.ofText file) = .ok text) (name : Option (List Char)) :
    Numbers (run view (file :: name.toList))
      (splitLines (Style.format ⟨2, Options.casingOf (keywordCaseOf name), .standard⟩ text)) := by
  have hinspect : ∀ casing, inspect view file casing =
      { ending := .exit 0, stdout := report casing text } := by
    intro casing
    simp only [inspect, hread]
  cases name with
  | none =>
      have hupper : Options.casingOf (keywordCaseOf none) = .upper := by decide
      rw [hupper, Option.toList_none, run, hinspect]
      exact numbers_report .upper text
  | some name =>
      rw [Option.toList_some, run, hinspect]
      exact numbers_report _ text

/-- Every line of a formatted query is ended by a line feed.  Whatever the keywords, the policy and
the indent size are, the only blanks of the output are spaces and line feeds, it has none at either
end, and its lines are what stands between its line feeds.  So an inspection of a file loses nothing
of the formatted query: the lines that it numbers are the lines of the formatted query, which they
give back with a line feed between neighbours. -/
theorem format_lines_shown_by_inspection :
    (∀ (set : KeywordSet) (keywordCase : Value) (size : Int) (query : List Char), size < 2 ^ 31 →
      ∃ out, Options.format ⟨.int size, keywordCase, some set⟩ query = .ok out ∧
        (∀ c ∈ out, isBlank c = true → c = ' ' ∨ c = '\n') ∧
        (∀ c ∈ out.head?, isBlank c = false) ∧ (∀ c ∈ out.getLast?, isBlank c = false) ∧
        (out ≠ [] → splitLines out = out.splitOn '\n')) ∧
      ∀ (view : FileView) (file : List Char) (bytes : List UInt8) (text : List Char)
        (name : Option (List Char)),
        view.find (.ofText file) = .ok (.file bytes) → Utf8.decode bytes = .ok text →
        ∃ out,
          Options.format { keywordCase := keywordCaseOf name } (unifyLineEnds text) = .ok out ∧
          Numbers (run view (file :: name.toList)) (splitLines out) ∧
          ['\n'].intercalate (splitLines out) = out := by
  constructor
  · intro set keywordCase size query hsize
    refine ⟨_, Options.format_eq rfl rfl hsize query, ?_, ?_, ?_, ?_⟩
    · exact fun c hc hblank => Style.eq_of_isBlank_of_mem_format hblank hc
    · exact Style.not_blank_of_head?_format _ query
    · exact Style.not_blank_of_getLast?_format _ query
    · exact Style.splitLines_format _ query
  · intro view file bytes text name hfile hbytes
    have hread := FileView.readText_of_decode hfile hbytes
    have hformat : Options.format { keywordCase := keywordCaseOf name } (unifyLineEnds text) =
        .ok (Style.format ⟨(2 : Int).toNat, Options.casingOf (keywordCaseOf name), .standard⟩
          (unifyLineEnds text)) :=
      Options.format_eq rfl rfl (by decide) _
    exact ⟨_, hformat, numbers_run hread name, Style.intercalate_splitLines_format _ _⟩

/-- A file with a line separator, and with a carriage return before a line feed. -/
def separatedTree : FileTree :=
  FileTree.empty.put [.named "lines"] (Utf8.encode "SELECT\u2028a,\r\nb".toList)

/-- A line separator, a line tabulation and a carriage return in a query, and a keyword with the
next-line control in it. -/
theorem format_lines_shown_by_inspection_separators :
    (Options.format ⟨.int 3, .ofString "lower", some (.ofTexts ["y\u0085x".toList])⟩
          "X\u2028(\u000by\r)".toList = .ok "X (\n   y \n)".toList ∧
        splitLines "X (\n   y \n)".toList = "X (\n   y \n)".toList.splitOn '\n') ∧
      ∃ out,
        Options.format { keywordCase := keywordCaseOf (some "lower".toList) }
            (unifyLineEnds "SELECT\u2028a,\r\nb".toList) = .ok out ∧
          Numbers (run separatedTree.view ["lines".toList, "lower".toList]) (splitLines out) ∧
          ['\n'].intercalate (splitLines out) = out := by
  obtain ⟨hlines, hinspection⟩ := format_lines_shown_by_inspection
  constructor
  · have hformat : Options.format ⟨.int 3, .ofString "lower",
        some (.ofTexts ["y\u0085x".toList])⟩ "X\u2028(\u000by\r)".toList =
          .ok "X (\n   y \n)".toList := by
      decide +kernel
    obtain ⟨out, hout, _, _, _, hsplit⟩ := hlines _ _ 3 _ (by decide)
    rw [hformat, Except.ok.injEq] at hout
    subst hout
    exact ⟨hformat, hsplit (by decide)⟩
  · exact hinspection separatedTree.view "lines".toList _ _ (some "lower".toList)
      (by decide +kernel) (Utf8.decode_encode _)

end CommandLine.Inspection

end SqlTidy
