/-
Module: SqlTidy.Proofs.Goldens
Purpose: Golden files that were written pass the comparison, and nothing else has changed.
Main exports: Goldens.parse_cases, Goldens.GoldenOf, Goldens.update_eq_ok_iff,
  Goldens.check_of_goldenOf, Goldens.visit_update, Goldens.Settled, Goldens.updated_goldens_pass
-/
import SqlTidy.CommandLine.Goldens
import SqlTidy.Proofs.Encoding
import SqlTidy.Proofs.Grammar
import SqlTidy.Proofs.Lines
import SqlTidy.Proofs.Trees

namespace SqlTidy.CommandLine

/-!
The command writes golden files while it goes through the examples, so a write might change what is
read later.  It does not, because the names of examples and those of golden files end differently;
and a golden file is read back as it was written, because formatted texts have no carriage returns.
-/

namespace Goldens

/-! ### The command line -/

/-- The words of a run that writes golden files. -/
abbrev updateWords (directory : List Char) : List (List Char) :=
  ["--examples".toList, directory, "--update".toList]

/-- The words of a run that compares them. -/
abbrev checkWords (directory : List Char) : List (List Char) :=
  ["--examples".toList, directory]

theorem wordsOf_examples (rest : List (List Char)) :
    wordsOf grammar.options ("--examples".toList :: rest) =
      (wordsOf grammar.options rest).map (.option examplesOption :: ·) := by
  have hword : wordOf grammar.options "--examples".toList = .ok (.option examplesOption) := by
    decide +kernel
  rw [wordsOf, if_neg (by decide), hword]
  rcases wordsOf grammar.options rest with stop | words <;> rfl

/-- A directory's option that no value follows stops the command. -/
theorem walk_examples_of_ne_plain (progress : Progress Flags) {word : Word} (words : List Word)
    (h : ∀ other, word ≠ .plain other) :
    grammar.walk progress (.option examplesOption :: word :: words) =
      .error (examplesOption.complain "expected one argument") := by
  cases word with
  | plain text => exact absurd rfl (h text)
  | divider => rfl
  | unknown => rfl
  | option => rfl
  | assigned => rfl
  | grouped => rfl

/-- A directory is taken as it is spelled, or the command line is a misuse. -/
theorem parse_cases (home : Path) (directory : List Char) :
    (grammar.parse (usual home) (updateWords directory) = .ok (⟨some directory, true⟩, []) ∧
        grammar.parse (usual home) (checkWords directory) = .ok (⟨some directory, false⟩, [])) ∨
      ∃ message, grammar.parse (usual home) (updateWords directory) = .error (.misuse message) := by
  by_cases hdivider : directory = ['-', '-']
  · right
    subst hdivider
    exact ⟨_, rfl⟩
  · have hwords : ∀ rest, wordsOf grammar.options (directory :: rest) =
        (do return (← wordOf grammar.options directory) :: (← wordsOf grammar.options rest)) := by
      intro rest
      rw [wordsOf, if_neg (by simpa using hdivider)]
    have hupdate : wordsOf grammar.options ["--update".toList] = .ok [.option updateOption] := by
      decide +kernel
    have hcases := wordOutcome_wordOf grammar.options directory
    generalize hword : wordOf grammar.options directory = outcome at hcases
    cases hcases with
    | plain =>
        left
        constructor
        · rw [Grammar.parse, wordsOf_examples, hwords, hword, hupdate]
          rfl
        · rw [Grammar.parse, wordsOf_examples, hwords, hword]
          rfl
    | other word ne_plain =>
        right
        refine ⟨"argument " ++ examplesOption.title ++ ": expected one argument", ?_⟩
        rw [Grammar.parse, wordsOf_examples, hwords, hword, hupdate]
        simp only [bind, Except.bind, pure, Except.pure, Except.map,
          walk_examples_of_ne_plain _ _ ne_plain]
        rfl
    | misuse message =>
        right
        refine ⟨message, ?_⟩
        rw [Grammar.parse, wordsOf_examples, hwords, hword]
        rfl

/-! ### One example -/

/-- What the golden file of a query holds. -/
def goldenText (query : List Char) : List Char :=
  Style.format ⟨2, Options.casingOf (.ofString "upper"), .standard⟩ query ++ ['\n']

theorem carriageReturn_not_mem_goldenText (query : List Char) : '\r' ∉ goldenText query := by
  intro hmem
  rcases List.mem_append.1 hmem with hformat | hend
  · rcases Style.eq_of_isBlank_of_mem_format (by decide) hformat with h | h
    · exact absurd h (by decide)
    · exact absurd h (by decide)
  · exact absurd hend (by decide)

theorem render_eq_ok_iff {tree : FileTree} {path : Path} {text : List Char} :
    render tree path = .ok text ↔
      ∃ query, tree.view.readText path = .ok query ∧ text = goldenText query := by
  have hformat : ∀ query, Options.format {} query = .ok _ :=
    Options.format_eq rfl rfl (by decide)
  unfold render
  rcases tree.view.readText path with error | query
  · simp [Except.mapError, bind, Except.bind]
  · simp only [Except.mapError, bind, Except.bind, pure, Except.pure, hformat, Except.ok.injEq,
      exists_eq_left']
    exact eq_comm

/-- The write puts the golden file of an example in its place. -/
structure GoldenOf (tree : FileTree) (query : Example) (write : List FileName × List UInt8) :
    Prop where
  source : ∃ text, tree.view.readText query.path = .ok text ∧
    write.2 = Utf8.encode (goldenText text)
  target : tree.locate query.goldenPath = .ok write.1
  apart : tree.isDirectory write.1 = false

/-- What is said about an example whose golden file is written. -/
def updatedLine (query : Example) : String :=
  "[UPDATED] " ++ String.ofList query.goldenName.text ++ "\n"

/-- What is said about an example whose golden file is right. -/
def matchedLine (query : Example) : String :=
  "[OK] " ++ String.ofList query.name.text ++ " matches golden.\n"

theorem update_eq_ok_iff {tree : FileTree} {query : Example} {verdict : Verdict} :
    update tree query = .ok verdict ↔
      ∃ write, GoldenOf tree query write ∧
        verdict = ⟨tree.put write.1 write.2, updatedLine query, true⟩ := by
  constructor
  · intro h
    rcases hrender : render tree query.path with fault | golden
    · simp only [update, hrender, bind, Except.bind, reduceCtorEq] at h
    rcases hwrite : tree.write query.goldenPath (Utf8.encode golden) with error | next
    · simp only [update, hrender, hwrite, bind, Except.bind, Except.mapError, reduceCtorEq] at h
    simp only [update, hrender, hwrite, bind, Except.bind, Except.mapError, pure, Except.pure,
      Except.ok.injEq] at h
    obtain ⟨text, htext, hgolden⟩ := render_eq_ok_iff.1 hrender
    obtain ⟨names, htarget, hapart, rfl⟩ := FileTree.write_eq_ok_iff.1 hwrite
    refine ⟨(names, Utf8.encode golden), ⟨⟨text, htext, ?_⟩, htarget, hapart⟩, ?_⟩
    · rw [hgolden]
    · rw [← h, updatedLine]
  · rintro ⟨write, h, rfl⟩
    obtain ⟨text, htext, hbytes⟩ := h.source
    have hrender : render tree query.path = .ok (goldenText text) :=
      render_eq_ok_iff.2 ⟨text, htext, rfl⟩
    have hwrite : tree.write query.goldenPath (Utf8.encode (goldenText text)) =
        .ok (tree.put write.1 write.2) :=
      FileTree.write_eq_ok_iff.2 ⟨write.1, h.target, h.apart, by rw [hbytes]⟩
    simp only [update, hrender, hwrite, bind, Except.bind, Except.mapError, pure, Except.pure,
      updatedLine]

theorem check_of_goldenOf {tree : FileTree} {query : Example}
    {write : List FileName × List UInt8} (h : GoldenOf tree query write)
    (hholds : tree.files.lookup write.1 = some write.2) :
    check tree query = .ok ⟨tree, matchedLine query, true⟩ := by
  obtain ⟨text, htext, hbytes⟩ := h.source
  have hfind : tree.find query.goldenPath = .ok (.file write.2) :=
    FileTree.find_eq_file_iff.2 ⟨write.1, h.target, hholds⟩
  have hprobe : tree.view.probe query.goldenPath = .ok (some (.file write.2)) := by
    simp only [FileView.probe, FileTree.view, hfind]
  -- What was written is read back as it is, since it has no carriage return.
  have hread : tree.view.readText query.goldenPath = .ok (goldenText text) := by
    refine FileTree.readTextBy_eq_ok_iff.2 ⟨write.2, hfind, ?_⟩
    rw [hbytes]
    exact decodeText_encode (carriageReturn_not_mem_goldenText text)
  have hrender : render tree query.path = .ok (goldenText text) :=
    render_eq_ok_iff.2 ⟨text, htext, rfl⟩
  simp only [check, hrender, hprobe, hread, bind, Except.bind, Except.mapError, pure, Except.pure,
    beq_self_eq_true, if_true, matchedLine]

/-! ### Examples in a directory -/

/-- The example is an entry of the directory, as far as its name goes. -/
structure IsExampleIn (directory : Path) (query : Example) : Prop where
  directory_eq : query.directory = directory
  suffix : ".sql".toList <:+ query.name.text

theorem mem_examples_iff {tree : FileTree} {directory : Path} {query : Example} :
    query ∈ examples tree directory ↔
      query.name ∈ tree.entries directory ∧ IsExampleIn directory query := by
  obtain ⟨place, name⟩ := query
  simp only [examples, List.mem_map, List.mem_mergeSort, List.mem_filter,
    List.isSuffixOf_iff_suffix, Example.mk.injEq]
  constructor
  · rintro ⟨other, ⟨hentry, hname⟩, rfl, rfl⟩
    exact ⟨hentry, rfl, hname⟩
  · rintro ⟨hentry, rfl, hname⟩
    exact ⟨name, ⟨hentry, hname⟩, rfl, rfl⟩

/-- No golden file is an example. -/
theorem not_sql_suffix_goldenName (query : Example) :
    ¬ ".sql".toList <:+ query.goldenName.text := by
  intro h
  have hlast := h.getLast (by decide)
  have hgolden : query.goldenName.text = query.name.text ++ ".golden".toList := rfl
  simp only [hgolden] at hlast
  rw [List.getLast_append_of_ne_nil _ (by decide)] at hlast
  exact absurd hlast (by decide)

/-- Golden files have the names of their examples. -/
theorem name_eq_of_goldenName_eq {query other : Example} (h : query.goldenName = other.goldenName) :
    query.name.text = other.name.text :=
  List.append_cancel_right (congrArg Segment.text h)

section Directory

variable {tree : FileTree} {directory : Path} {parent : List FileName} {query : Example}
  {write : List FileName × List UInt8} {writes : List (List FileName × List UInt8)}

/-- The golden file of an example goes into the directory of the example, under its own name. -/
theorem GoldenOf.place (h : GoldenOf tree query write)
    (hdirectory : tree.locate query.directory = .ok parent) :
    ∃ golden, query.goldenName = FileName.toSegment golden ∧ write.1 = parent ++ [golden] ∧
      tree.isDirectory parent = true :=
  FileTree.locate_child h.target hdirectory

theorem GoldenOf.fits (h : GoldenOf tree query write)
    (hdirectory : tree.locate query.directory = .ok parent) : tree.Fits write.1 where
  parent := by
    obtain ⟨golden, _, hplace, hparent⟩ := h.place hdirectory
    exact ⟨parent, golden, hplace, hparent⟩
  apart := h.apart

/-- The writes are golden files of examples in a directory. -/
def AllGolden (tree : FileTree) (directory : Path)
    (writes : List (List FileName × List UInt8)) : Prop :=
  ∀ write ∈ writes, ∃ query, Example.directory query = directory ∧ GoldenOf tree query write

theorem AllGolden.fits (h : AllGolden tree directory writes)
    (hdirectory : tree.locate directory = .ok parent) :
    ∀ write ∈ writes, tree.Fits write.1 := by
  intro write hwrite
  obtain ⟨query, rfl, hgolden⟩ := h write hwrite
  exact hgolden.fits hdirectory

/-- The golden files of some examples do not matter for another one. -/
theorem AllGolden.goldenOf_putAll_iff (h : AllGolden tree directory writes)
    (hdirectory : tree.locate directory = .ok parent) (hquery : IsExampleIn directory query) :
    GoldenOf (tree.putAll writes) query write ↔ GoldenOf tree query write := by
  have hfits := h.fits hdirectory
  obtain ⟨rfl, hname⟩ := hquery
  -- An example is not in the place of a golden file.
  have hplaces : ∀ other ∈ writes, tree.locate query.path ≠ .ok other.1 := by
    intro other hother hlocate
    obtain ⟨source, hsource, hgolden⟩ := h other hother
    obtain ⟨golden, hgoldenName, hplace, _⟩ := hgolden.place (hsource ▸ hdirectory)
    obtain ⟨name, hsegment, hfound, _⟩ := FileTree.locate_child hlocate hdirectory
    have hlast : name = golden := by simpa using hfound.symm.trans hplace
    rw [hsegment, hlast, ← hgoldenName] at hname
    exact not_sql_suffix_goldenName source hname
  have hread : ∀ text, (tree.putAll writes).view.readText query.path = .ok text ↔
      tree.view.readText query.path = .ok text :=
    fun text => FileTree.readTextBy_putAll_iff hfits hplaces
  constructor
  · rintro ⟨⟨text, htext, hbytes⟩, htarget, hapart⟩
    exact ⟨⟨text, (hread text).1 htext, hbytes⟩, (FileTree.locate_putAll_iff hfits).1 htarget,
      by rw [← hapart, FileTree.isDirectory_putAll hfits]⟩
  · rintro ⟨⟨text, htext, hbytes⟩, htarget, hapart⟩
    exact ⟨⟨text, (hread text).2 htext, hbytes⟩, (FileTree.locate_putAll_iff hfits).2 htarget,
      by rw [← hapart, FileTree.isDirectory_putAll hfits]⟩

/-- No two golden files of a directory disagree, since the places tell the examples apart. -/
theorem AllGolden.agree (h : AllGolden tree directory writes)
    (hdirectory : tree.locate directory = .ok parent) :
    ∀ write ∈ writes, ∀ other ∈ writes, other.1 = write.1 → other.2 = write.2 := by
  intro write hwrite other hother hplace
  obtain ⟨⟨_, name⟩, rfl, hgolden⟩ := h write hwrite
  obtain ⟨⟨_, source⟩, rfl, hsource⟩ := h other hother
  obtain ⟨golden, hgoldenName, hwritten, _⟩ := hgolden.place hdirectory
  obtain ⟨golden', hgoldenName', hwritten', _⟩ := hsource.place hdirectory
  have hsame : golden' = golden := by simpa using hwritten'.symm.trans (hplace.trans hwritten)
  have hnames : source = name := FileName.eq_of_text_eq
    (name_eq_of_goldenName_eq (hgoldenName'.trans (hsame ▸ hgoldenName.symm)))
  subst hnames
  obtain ⟨text, htext, hbytes⟩ := hgolden.source
  obtain ⟨text', htext', hbytes'⟩ := hsource.source
  rw [htext, Except.ok.injEq] at htext'
  rw [hbytes, hbytes', htext']

/-- Golden files do not show among the examples. -/
theorem AllGolden.examples_putAll (h : AllGolden tree directory writes)
    (hdirectory : tree.locate directory = .ok parent) :
    examples (tree.putAll writes) directory = examples tree directory := by
  have hfits := h.fits hdirectory
  have hskip : ∀ write ∈ writes, ∀ name, FileTree.nameAfter? parent write.1 = some name →
      ".sql".toList.isSuffixOf name.text = false := by
    intro write hwrite name hafter
    obtain ⟨source, rfl, hsource⟩ := h write hwrite
    obtain ⟨golden, hgoldenName, hplace, _⟩ := hsource.place hdirectory
    rw [hplace, FileTree.nameAfter?_concat, Option.some.injEq] at hafter
    rw [← hafter, ← hgoldenName, ← Bool.not_eq_true, List.isSuffixOf_iff_suffix]
    exact not_sql_suffix_goldenName source
  have hnames : ((tree.putAll writes).entries directory).filter
        (fun name => ".sql".toList.isSuffixOf name.text) =
      (tree.entries directory).filter fun name => ".sql".toList.isSuffixOf name.text := by
    simp only [FileTree.entries, (FileTree.locate_putAll_iff hfits).2 hdirectory, hdirectory,
      FileTree.isDirectory_putAll hfits]
    split
    · exact FileTree.filter_namesIn_putAll tree _ hskip
    · rfl
  rw [examples, hnames, examples]

end Directory

/-! ### Going through the examples -/

/-- If every step leaves the tree and is content, so is the whole run. -/
theorem visit_of_all_passed {step : FileTree → Example → Except Fault Verdict} {tree : FileTree}
    (line : Example → String) {queries : List Example}
    (h : ∀ query ∈ queries, step tree query = .ok ⟨tree, line query, true⟩) (output : String) :
    visit step ⟨tree, output, true⟩ queries =
      ({ ending := .exit 0, stdout := output ++ String.join (queries.map line) }, tree) := by
  induction queries generalizing output with
  | nil => simp [visit]
  | cons query queries ih =>
      have hrest := ih (fun other hother => h other (List.mem_cons_of_mem _ hother))
        (output ++ line query)
      rw [visit, h query List.mem_cons_self]
      simp only [Bool.and_true, hrest, List.map_cons, String.join_cons, String.append_assoc]

/-- The writes are the golden files of the examples, of all of them and of no others. -/
structure Renews (tree : FileTree) (queries : List Example)
    (writes : List (List FileName × List UInt8)) : Prop where
  every : ∀ query ∈ queries, ∃ write ∈ writes, GoldenOf tree query write
  only : ∀ write ∈ writes, ∃ query ∈ queries, GoldenOf tree query write

theorem Renews.nil (tree : FileTree) : Renews tree [] [] :=
  ⟨by simp, by simp⟩

theorem Renews.cons {tree : FileTree} {query : Example} {queries : List Example}
    {write : List FileName × List UInt8} {writes : List (List FileName × List UInt8)}
    (hfirst : GoldenOf tree query write) (h : Renews tree queries writes) :
    Renews tree (query :: queries) (write :: writes) where
  every := by
    intro other hother
    rcases List.mem_cons.1 hother with rfl | hother
    · exact ⟨write, List.mem_cons_self, hfirst⟩
    · obtain ⟨found, hfound, hgolden⟩ := h.every other hother
      exact ⟨found, List.mem_cons_of_mem _ hfound, hgolden⟩
  only := by
    intro other hother
    rcases List.mem_cons.1 hother with rfl | hother
    · exact ⟨query, List.mem_cons_self, hfirst⟩
    · obtain ⟨found, hfound, hgolden⟩ := h.only other hother
      exact ⟨found, List.mem_cons_of_mem _ hfound, hgolden⟩

section Directory

variable {tree : FileTree} {directory : Path} {parent : List FileName} {queries : List Example}
  {writes : List (List FileName × List UInt8)}

theorem Renews.allGolden (h : Renews tree queries writes)
    (hqueries : ∀ query ∈ queries, IsExampleIn directory query) :
    AllGolden tree directory writes := by
  intro write hwrite
  obtain ⟨query, hquery, hgolden⟩ := h.only write hwrite
  exact ⟨query, (hqueries query hquery).directory_eq, hgolden⟩

/-- Golden files that are due after other golden files were written were due before. -/
theorem Renews.of_putAll {done : List (List FileName × List UInt8)}
    (h : Renews (tree.putAll done) queries writes) (hdone : AllGolden tree directory done)
    (hdirectory : tree.locate directory = .ok parent)
    (hqueries : ∀ query ∈ queries, IsExampleIn directory query) : Renews tree queries writes := by
  have hback : ∀ query ∈ queries, ∀ write, GoldenOf (tree.putAll done) query write →
      GoldenOf tree query write := by
    intro query hquery write hgolden
    exact (hdone.goldenOf_putAll_iff hdirectory (hqueries query hquery)).1 hgolden
  constructor
  · intro query hquery
    obtain ⟨write, hwrite, hgolden⟩ := h.every query hquery
    exact ⟨write, hwrite, hback query hquery write hgolden⟩
  · intro write hwrite
    obtain ⟨query, hquery, hgolden⟩ := h.only write hwrite
    exact ⟨query, hquery, hback query hquery write hgolden⟩

/-- A run over examples that ends well has written the golden file of each of them, by the tree as
it was before the run, and nothing else. -/
theorem visit_update {output : String} (hdirectory : tree.locate directory = .ok parent)
    (hqueries : ∀ query ∈ queries, IsExampleIn directory query)
    (hexit : (visit update ⟨tree, output, true⟩ queries).1.ending = .exit 0) :
    ∃ writes, Renews tree queries writes ∧
      visit update ⟨tree, output, true⟩ queries =
        ({ ending := .exit 0, stdout := output ++ String.join (queries.map updatedLine) },
          tree.putAll writes) := by
  induction queries generalizing tree output with
  | nil => exact ⟨[], .nil tree, by simp [visit, FileTree.putAll]⟩
  | cons query queries ih =>
      obtain ⟨hquery, hlater⟩ := List.forall_mem_cons.1 hqueries
      rcases hstep : update tree query with fault | verdict
      · rw [visit, hstep] at hexit
        simp [Run.ofFault] at hexit
      · obtain ⟨write, hgolden, rfl⟩ := update_eq_ok_iff.1 hstep
        have hfirst : AllGolden tree directory [write] := by
          intro other hother
          rw [List.mem_singleton.1 hother]
          exact ⟨query, hquery.directory_eq, hgolden⟩
        have hdirectory' : (tree.putAll [write]).locate directory = .ok parent :=
          (FileTree.locate_putAll_iff (hfirst.fits hdirectory)).2 hdirectory
        rw [visit, hstep] at hexit
        obtain ⟨writes, hwrites, hvisit⟩ := ih hdirectory' hlater hexit
        refine ⟨write :: writes, .cons hgolden ?_, ?_⟩
        · exact hwrites.of_putAll hfirst hdirectory hlater
        · rw [visit, hstep]
          refine hvisit.trans ?_
          rw [List.map_cons, String.join_cons, ← String.append_assoc]
          rfl

end Directory

/-! ### After a run that writes -/

/-- The examples of a directory are the same in both trees, their golden files are in the second
one, and nothing else differs. -/
structure Settled (tree updated : FileTree) (directory : Path) : Prop where
  examples_eq : examples updated directory = examples tree directory
  probe_eq : updated.view.probe directory = tree.view.probe directory
  golden : ∀ query ∈ examples tree directory, ∃ write, GoldenOf updated query write ∧
    updated.files.lookup write.1 = some write.2
  directories_eq : updated.directories = tree.directories
  workingDirectory_eq : updated.workingDirectory = tree.workingDirectory
  changed : ∀ names, updated.entry? names ≠ tree.entry? names →
    ∃ query ∈ examples tree directory, tree.locate query.goldenPath = .ok names

theorem isExampleIn_of_mem_examples {tree : FileTree} {directory : Path} :
    ∀ query ∈ examples tree directory, IsExampleIn directory query :=
  fun _ hquery => (mem_examples_iff.1 hquery).2

/-- Only a directory has examples. -/
theorem locate_of_examples_ne_nil {tree : FileTree} {directory : Path}
    (h : examples tree directory ≠ []) :
    ∃ parent, tree.locate directory = .ok parent ∧ tree.isDirectory parent = true := by
  obtain ⟨query, hquery⟩ := List.exists_mem_of_ne_nil _ h
  have hname := (mem_examples_iff.1 hquery).1
  unfold FileTree.entries at hname
  split at hname
  · rename_i parent hlocate
    split at hname
    · rename_i hdirectory
      exact ⟨parent, hlocate, hdirectory⟩
    · simp at hname
  · simp at hname

theorem settled_putAll {tree : FileTree} {directory : Path} {parent : List FileName}
    {writes : List (List FileName × List UInt8)}
    (hrenews : Renews tree (examples tree directory) writes)
    (hdirectory : tree.locate directory = .ok parent)
    (hparent : tree.isDirectory parent = true) :
    Settled tree (tree.putAll writes) directory := by
  have hall := hrenews.allGolden isExampleIn_of_mem_examples
  have hfits := hall.fits hdirectory
  constructor
  case examples_eq => exact hall.examples_putAll hdirectory
  case probe_eq =>
    -- The directory is not written over, as it is one.
    have hother : ∀ write ∈ writes, parent ≠ write.1 := by
      rintro write hwrite rfl
      rw [(hfits write hwrite).apart] at hparent
      simp at hparent
    simp only [FileView.probe, FileTree.view, FileTree.find,
      (FileTree.locate_putAll_iff hfits).2 hdirectory, hdirectory,
      FileTree.entry?_putAll_of_ne hfits hother]
  case golden =>
    intro query hquery
    obtain ⟨write, hwrite, hgolden⟩ := hrenews.every query hquery
    have hexample := isExampleIn_of_mem_examples query hquery
    exact ⟨write, (hall.goldenOf_putAll_iff hdirectory hexample).2 hgolden,
      FileTree.lookup_putAll hfits (hall.agree hdirectory) write hwrite⟩
  case directories_eq => exact FileTree.directories_putAll tree writes
  case workingDirectory_eq => exact FileTree.workingDirectory_putAll tree writes
  case changed =>
    intro names hchanged
    by_contra hnone
    refine hchanged (FileTree.entry?_putAll_of_ne hfits ?_)
    rintro write hwrite rfl
    obtain ⟨query, hquery, hgolden⟩ := hrenews.only write hwrite
    exact hnone ⟨query, hquery, hgolden.target⟩

theorem settled_of_visit_update {tree updated : FileTree} {directory : Path} {result : Run}
    (hvisit : visit update ⟨tree, "", true⟩ (examples tree directory) = (result, updated))
    (hexit : result.ending = .exit 0) :
    Settled tree updated directory ∧
      result = { ending := .exit 0
                 stdout := String.join ((examples tree directory).map updatedLine) } := by
  have hending : (visit update ⟨tree, "", true⟩ (examples tree directory)).1.ending = .exit 0 := by
    rw [hvisit, hexit]
  by_cases hempty : examples tree directory = []
  · rw [hempty, visit, Prod.mk.injEq] at hvisit
    obtain ⟨rfl, rfl⟩ := hvisit
    refine ⟨⟨rfl, rfl, ?_, rfl, rfl, ?_⟩, ?_⟩
    · simp [hempty]
    · simp
    · simp [hempty]
  · obtain ⟨parent, hdirectory, hparent⟩ := locate_of_examples_ne_nil hempty
    obtain ⟨writes, hrenews, hrun⟩ :=
      visit_update hdirectory isExampleIn_of_mem_examples hending
    rw [hrun, Prod.mk.injEq] at hvisit
    obtain ⟨rfl, rfl⟩ := hvisit
    exact ⟨settled_putAll hrenews hdirectory hparent, by simp⟩

section Settled

variable {tree updated : FileTree} {directory : Path}

theorem Settled.visit_check (h : Settled tree updated directory) :
    visit check ⟨updated, "", true⟩ (examples updated directory) =
      ({ ending := .exit 0, stdout := String.join ((examples tree directory).map matchedLine) },
        updated) := by
  rw [h.examples_eq]
  refine (visit_of_all_passed matchedLine ?_ "").trans (by simp)
  intro query hquery
  obtain ⟨write, hgolden, hholds⟩ := h.golden query hquery
  exact check_of_goldenOf hgolden hholds

theorem Settled.visit_update_again (h : Settled tree updated directory) :
    visit update ⟨updated, "", true⟩ (examples updated directory) =
      ({ ending := .exit 0, stdout := String.join ((examples tree directory).map updatedLine) },
        updated) := by
  rw [h.examples_eq]
  refine (visit_of_all_passed updatedLine ?_ "").trans (by simp)
  intro query hquery
  obtain ⟨write, hgolden, hholds⟩ := h.golden query hquery
  rw [update_eq_ok_iff.2 ⟨write, hgolden, rfl⟩, FileTree.put_of_lookup hholds]

end Settled

/-! ### Whole runs -/

theorem run_of_probe {home : Path} {tree : FileTree} {words : List (List Char)}
    {directory : List Char} {updating : Bool} {entry : Entry}
    (hparse : grammar.parse (usual home) words = .ok (⟨some directory, updating⟩, []))
    (hprobe : tree.view.probe (.ofText directory) = .ok (some entry)) :
    run home tree words =
      visit (if updating then update else check) ⟨tree, "", true⟩
        (examples tree (.ofText directory)) := by
  simp only [run, hparse, hprobe]

/-- A run that ends well has found its directory. -/
theorem probe_of_run {home : Path} {tree : FileTree} {words : List (List Char)}
    {directory : List Char} {updating : Bool}
    (hparse : grammar.parse (usual home) words = .ok (⟨some directory, updating⟩, []))
    (hexit : (run home tree words).1.ending = .exit 0) :
    ∃ entry, tree.view.probe (.ofText directory) = .ok (some entry) := by
  rcases hprobe : tree.view.probe (.ofText directory) with error | found
  · simp only [run, hparse, hprobe, Run.ofFault, reduceCtorEq] at hexit
  · cases found with
    | none => simp only [run, hparse, hprobe, Ending.exit.injEq, one_ne_zero] at hexit
    | some entry => exact ⟨entry, rfl⟩

/-- Golden files that were written are right.  Whatever the project, the tree and the directory, if
a run that writes golden files ends well, then every place where the tree has changed is that of the
golden file of an entry whose name ends in `.sql`; a run that compares finds each example matching
its golden file and leaves the tree as it is; and so does another run that writes. -/
theorem updated_goldens_pass (home : Path) (tree updated : FileTree) (directory : List Char)
    (result : Run)
    (hrun : run home tree ["--examples".toList, directory, "--update".toList] = (result, updated))
    (hexit : result.ending = .exit 0) :
    (updated.directories = tree.directories ∧
        updated.workingDirectory = tree.workingDirectory ∧
        ∀ names, updated.entry? names ≠ tree.entry? names →
          ∃ name ∈ tree.entries (.ofText directory), ".sql".toList <:+ name.text ∧
            ∃ golden : Segment, golden.text = name.text ++ ".golden".toList ∧
              tree.locate ((Path.ofText directory).child golden) = .ok names) ∧
      run home updated ["--examples".toList, directory] =
        ({ ending := .exit 0
           stdout := String.join ((examples tree (.ofText directory)).map fun query =>
             "[OK] " ++ String.ofList query.name.text ++ " matches golden.\n") }, updated) ∧
      run home updated ["--examples".toList, directory, "--update".toList] =
        (result, updated) := by
  rcases parse_cases home directory with ⟨hupdate, hcheck⟩ | ⟨message, hmisuse⟩
  · have hending : (run home tree (updateWords directory)).1.ending = .exit 0 := by
      rw [hrun, hexit]
    obtain ⟨entry, hprobe⟩ := probe_of_run hupdate hending
    rw [run_of_probe hupdate hprobe] at hrun
    obtain ⟨hsettled, hresult⟩ := settled_of_visit_update hrun hexit
    have hprobe' := hsettled.probe_eq.trans hprobe
    refine ⟨⟨hsettled.directories_eq, hsettled.workingDirectory_eq, fun names hchanged => ?_⟩,
      ?_, ?_⟩
    · obtain ⟨⟨place, name⟩, hquery, htarget⟩ := hsettled.changed names hchanged
      obtain ⟨hentry, rfl, hname⟩ := mem_examples_iff.1 hquery
      exact ⟨name, hentry, hname, _, rfl, htarget⟩
    · exact (run_of_probe hcheck hprobe').trans hsettled.visit_check
    · rw [hresult]
      exact (run_of_probe hupdate hprobe').trans hsettled.visit_update_again
  · -- A directory that is spelled like an option is a misuse.
    rw [run, hmisuse, Prod.mk.injEq] at hrun
    rw [← hrun.1] at hexit
    simp [Program.stop] at hexit

/-- Two examples with all three line ends, one with a golden file that is no text and one without,
beside a file of another kind and a directory that holds nothing. -/
def staleTree : FileTree where
  files :=
    [([.named "w", .named "d", .named "b.sql"], Utf8.encode "select a,\r\nb\r".toList),
      ([.named "w", .named "d", .named "a.sql"], Utf8.encode "from\nt".toList),
      ([.named "w", .named "d", .named "a.sql.golden"], [0xFF]),
      ([.named "w", .named "d", .named "a.txt"], [])]
  directories := [[.named "w", .named "e"]]
  workingDirectory := [.named "w"]

theorem updated_goldens_pass_stale :
    ∃ updated,
      run (.ofText "/p".toList) staleTree
          ["--examples".toList, "/w/d".toList, "--update".toList] =
        ({ ending := .exit 0
           stdout := "[UPDATED] a.sql.golden\n[UPDATED] b.sql.golden\n" }, updated) ∧
      run (.ofText "/p".toList) updated ["--examples".toList, "/w/d".toList] =
        ({ ending := .exit 0
           stdout := "[OK] a.sql matches golden.\n[OK] b.sql matches golden.\n" }, updated) := by
  have hexamples : examples staleTree (.ofText "/w/d".toList) =
      [⟨.ofText "/w/d".toList, .named "a.sql"⟩, ⟨.ofText "/w/d".toList, .named "b.sql"⟩] := by
    cbv
  have hrun : run (.ofText "/p".toList) staleTree
        ["--examples".toList, "/w/d".toList, "--update".toList] =
      ({ ending := .exit 0, stdout := "[UPDATED] a.sql.golden\n[UPDATED] b.sql.golden\n" },
        (staleTree.put [.named "w", .named "d", .named "a.sql.golden"]
          (Utf8.encode "FROM t\n".toList)).put [.named "w", .named "d", .named "b.sql.golden"]
            (Utf8.encode "SELECT a,\nb\n".toList)) := by
    have hparse : grammar.parse (usual (.ofText "/p".toList))
        ["--examples".toList, "/w/d".toList, "--update".toList] =
          .ok (⟨some "/w/d".toList, true⟩, []) := by
      decide +kernel
    have hprobe : staleTree.view.probe (.ofText "/w/d".toList) = .ok (some .directory) := by
      decide +kernel
    rw [run_of_probe hparse hprobe, hexamples]
    decide +kernel
  refine ⟨_, hrun, (updated_goldens_pass _ staleTree _ "/w/d".toList _ hrun rfl).2.1.trans ?_⟩
  rw [hexamples]
  decide +kernel

end Goldens

end SqlTidy.CommandLine
