/-
Module: SqlTidy.Proofs.Channels
Purpose: A query is formatted alike from words, from standard input and from a file.
Main exports: Text.squeeze_unifyLineEnds, Style.format_unifyLineEnds,
  Formatter.input_channels_agree
-/
import SqlTidy.Proofs.CommandLine
import SqlTidy.Proofs.Encoding

namespace SqlTidy

open Text

/-!
Bytes are decoded with their line ends unified, and words are taken as they are.  So the three
channels hand different texts to the formatter: a carriage return becomes a line feed in two of
them, and a line end of two characters becomes one of a single character.  Both are blanks before
and after, and the first step of formatting writes every run of blanks as one space.
-/

/-! ### Line ends as blanks -/

namespace Text

variable {c d : Char}

/-- Which blank a text starts with makes no difference. -/
theorem squeeze_cons_congr (hc : isBlank c = true) (hd : isBlank d = true) (text : List Char) :
    squeeze (c :: text) = squeeze (d :: text) := by
  simp [squeeze, hc, hd]

/-- A blank before another one leaves no trace. -/
theorem squeeze_cons_cons (hc : isBlank c = true) (hd : isBlank d = true) (text : List Char) :
    squeeze (c :: d :: text) = squeeze (d :: text) := by
  have hspace : ∃ rest, squeeze (d :: text) = ' ' :: rest := by
    rcases squeeze_cons_blank hd text with ⟨rest, hrest, heq⟩ | ⟨_, heq⟩
    · exact ⟨rest, heq.trans hrest⟩
    · exact ⟨_, heq⟩
  obtain ⟨rest, hrest⟩ := hspace
  rcases squeeze_cons_blank hc (d :: text) with ⟨_, _, heq⟩ | ⟨hne, _⟩
  · exact heq
  · exact absurd hrest (hne rest)

/-- Texts that are squeezed alike still are after the same text. -/
theorem squeeze_append_congr {text other : List Char} (before : List Char)
    (h : squeeze text = squeeze other) : squeeze (before ++ text) = squeeze (before ++ other) := by
  unfold squeeze at h ⊢
  rw [List.foldr_append, List.foldr_append, h]

theorem squeeze_unifyLineEndsFrom (done text : List Char) :
    squeeze (unifyLineEndsFrom done text) = squeeze (done.reverse ++ text) := by
  fun_induction unifyLineEndsFrom done text with
  | case1 done => rw [List.append_nil]
  | case2 done rest ih =>
      rw [ih, List.reverse_cons, List.append_assoc]
      apply squeeze_append_congr
      exact (squeeze_cons_cons rfl rfl rest).symm
  | case3 done rest _ ih =>
      rw [ih, List.reverse_cons, List.append_assoc]
      apply squeeze_append_congr
      exact squeeze_cons_congr rfl rfl rest
  | case4 done c rest _ _ ih => rw [ih, List.reverse_cons, List.append_assoc, List.singleton_append]

/-- Unifying the line ends of a text changes nothing but its blanks, and no run of them goes. -/
theorem squeeze_unifyLineEnds (text : List Char) : squeeze (unifyLineEnds text) = squeeze text :=
  squeeze_unifyLineEndsFrom [] text

end Text

/-- The formatter does not see of which kind the line ends of a query are. -/
theorem Style.format_unifyLineEnds (style : Style) (query : List Char) :
    style.format (unifyLineEnds query) = style.format query := by
  have hnormalize : style.normalize (unifyLineEnds query) = style.normalize query := by
    unfold normalize KeywordSet.normalize collapse
    rw [squeeze_unifyLineEnds]
  rw [format, hnormalize, format]

theorem Options.format_unifyLineEnds (options : Options) (query : List Char) :
    options.format (unifyLineEnds query) = options.format query := by
  unfold format
  simp only [Style.format_unifyLineEnds]

namespace CommandLine.Formatter

/-! ### The query of each channel -/

/-- Looking the path up ends well and leads to no file. -/
def LeadsToNoFile (view : FileView) (path : Path) : Prop :=
  ∃ found, view.probe path = .ok found ∧ ∀ bytes, found ≠ some (.file bytes)

/-- Words whose first one leads to no file are the query, as they are. -/
theorem readInput_of_leadsToNoFile {view : FileView} {first : List Char}
    (others : List (List Char)) (hfirst : LeadsToNoFile view (.ofText first))
    (hplain : AllPlain (first :: others)) (stdin : List UInt8) :
    readInput view stdin (first :: others) = .ok (joinWords (first :: others)) := by
  obtain ⟨found, hprobe, hfound⟩ := hfirst
  unfold FileView.probe at hprobe
  apply readInput_words
  · rintro heq
    obtain ⟨rfl, rfl⟩ := List.cons_eq_cons.1 heq
    exact hplain ['-'] List.mem_cons_self rfl
  · intro bytes hfind
    rw [hfind, Except.ok.injEq] at hprobe
    exact hfound bytes hprobe.symm
  · intro hfind
    rw [hfind] at hprobe
    simp at hprobe

/-- Standard input is the query, with its line ends unified. -/
theorem readInput_dash (view : FileView) (text : List Char) :
    readInput view (Utf8.encode text) [['-']] = .ok (unifyLineEnds text) := by
  unfold readInput
  simp only [decodeText, Utf8.decode_encode, Except.mapError]

/-- The text of a file is the query, with its line ends unified. -/
theorem readInput_file {view : FileView} {file text : List Char}
    (hfile : view.find (.ofText file) = .ok (.file (Utf8.encode text)))
    (hplain : AllPlain [file]) (stdin : List UInt8) :
    readInput view stdin [file] = .ok (unifyLineEnds text) := by
  have hprobe : view.probe (.ofText file) = .ok (some (.file (Utf8.encode text))) := by
    rw [FileView.probe, hfile]
  have hread := FileView.readText_of_decode hfile (Utf8.decode_encode text)
  rw [readInput]
  · simp only [hprobe, hread, Except.mapError]
  · rintro rfl _
    exact hplain ['-'] List.mem_cons_self rfl

/-! ### The runs -/

/-- The run that prints a formatted query. -/
def printed (out : List Char) : Run :=
  { ending := .exit 0, stdout := String.ofList out ++ "\n" }

/-- The single dash is an input, although it starts with a dash. -/
theorem run_dash (view : FileView) (stdin : List UInt8) (terminal : Bool) :
    run view stdin terminal [['-']] = formatInput view stdin {} [['-']] :=
  rfl

theorem formatInput_eq_printed {view : FileView} {stdin : List UInt8}
    {inputs : List (List Char)} {query out : List Char}
    (hread : readInput view stdin inputs = .ok query)
    (hformat : Options.format {} query = .ok out) :
    formatInput view stdin {} inputs = printed out := by
  obtain ⟨text, htext, hrun⟩ := formatInput_of_readInput_ok hread
  rw [hformat, Except.ok.injEq] at htext
  rw [hrun, ← htext, printed]

/-- The three channels agree.  Take any words that are no options and whose first one leads to no
file, and the text that they form with one space between neighbours.  Running the command with the
words, with a dash and the bytes of the text as standard input, and with a file of these bytes gives
three times the same: the text is formatted and printed, and the run succeeds.  What else there is
in each run, be it files, standard input or a terminal, makes no difference. -/
theorem input_channels_agree (text first : List Char) (others : List (List Char))
    (hjoin : joinWords (first :: others) = text) (hplain : AllPlain (first :: others))
    (wordsView : FileView) (hfirst : LeadsToNoFile wordsView (.ofText first))
    (file : List Char) (hdash : file.head? ≠ some '-') (fileView : FileView)
    (hfile : fileView.find (.ofText file) = .ok (.file (Utf8.encode text))) :
    ∃ out, Options.format {} text = .ok out ∧
      ∀ (stdin : List UInt8) (terminal : Bool),
        run wordsView stdin terminal (first :: others) = printed out ∧
        (∀ view, run view (Utf8.encode text) terminal [['-']] = printed out) ∧
        run fileView stdin terminal [file] = printed out := by
  have hformat : Options.format {} text = .ok _ := Options.format_eq rfl rfl (by decide) text
  refine ⟨_, hformat, fun stdin terminal => ⟨?_, fun view => ?_, ?_⟩⟩
  · rw [run_plain wordsView stdin terminal (List.cons_ne_nil first others) hplain]
    apply formatInput_eq_printed _ hformat
    rw [readInput_of_leadsToNoFile others hfirst hplain, hjoin]
  · rw [run_dash]
    apply formatInput_eq_printed (readInput_dash view text)
    rw [Options.format_unifyLineEnds, hformat]
  · have hplain' : AllPlain [file] := by simpa [AllPlain] using hdash
    rw [run_plain fileView stdin terminal (List.cons_ne_nil file []) hplain']
    apply formatInput_eq_printed (readInput_file hfile hplain' stdin)
    rw [Options.format_unifyLineEnds, hformat]

/-- A carriage return before a mark, one before a line feed, and a no-break space, in the second of
two words that also are a file's text; the first word is the name of a directory. -/
theorem input_channels_agree_returns :
    joinWords ["select".toList, "a\r,\u00A0b\r\n".toList] = "select a\r,\u00A0b\r\n".toList ∧
      ∃ out, Options.format {} "select a\r,\u00A0b\r\n".toList = .ok out ∧
        run (FileTree.empty.makeDirectory [.named "select"]).view [] true
            ["select".toList, "a\r,\u00A0b\r\n".toList] = printed out ∧
        run FileTree.empty.view (Utf8.encode "select a\r,\u00A0b\r\n".toList) true [['-']] =
          printed out ∧
        run (FileTree.empty.put [.named "q"]
            (Utf8.encode "select a\r,\u00A0b\r\n".toList)).view [] true ["q".toList] =
          printed out := by
  have hjoin : joinWords ["select".toList, "a\r,\u00A0b\r\n".toList] =
      "select a\r,\u00A0b\r\n".toList := by
    decide +kernel
  have hplain : AllPlain ["select".toList, "a\r,\u00A0b\r\n".toList] := by
    unfold AllPlain
    decide +kernel
  have hfirst : LeadsToNoFile (FileTree.empty.makeDirectory [.named "select"]).view
      (.ofText "select".toList) :=
    ⟨some .directory, by decide +kernel, nofun⟩
  obtain ⟨out, hformat, hruns⟩ := input_channels_agree _ _ _ hjoin hplain _ hfirst "q".toList
    (by decide +kernel) (FileTree.empty.put [.named "q"]
      (Utf8.encode "select a\r,\u00A0b\r\n".toList)).view (by decide +kernel)
  obtain ⟨hwords, hstdin, hfile⟩ := hruns [] true
  exact ⟨hjoin, out, hformat, hwords, hstdin _, hfile⟩

end CommandLine.Formatter

end SqlTidy
