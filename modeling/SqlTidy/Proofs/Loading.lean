/-
Module: SqlTidy.Proofs.Loading
Purpose: Loading a configuration file is an error of the configuration whenever it fails, but for a
  path that no file can have and an integer that is too long.
Main exports: FileTree.find_eq_nulInName_iff, Config.options_cases, Config.Reported,
  Config.load_reported_iff
-/
import SqlTidy.Config
import SqlTidy.Proofs.Configuration
import SqlTidy.Proofs.Reading
import SqlTidy.Proofs.Trees

namespace SqlTidy

/-!
Loading has three stages, and each turns its own faults into errors of the configuration.  What
escapes is what a stage does not count among them: the file stage takes faults of the file system
and of the encoding, and a NUL in a path is neither; the text stage takes texts that are not JSON,
and an integer with too many digits is JSON.
-/

/-! ### Paths that no file can have -/

namespace FileTree

variable {tree : FileTree}

theorem follow_ne_nulInName {steps : List Step}
    (h : ∀ segment, .down segment ∈ steps → Char.ofNat 0 ∉ segment.text) (place : List FileName) :
    tree.follow place steps ≠ .error .nulInName := by
  induction steps generalizing place with
  | nil => simp [follow]
  | cons step rest ih =>
      have hrest := ih fun segment hmem => h segment (List.mem_cons_of_mem _ hmem)
      cases step with
      | up =>
          rw [follow]
          exact hrest place.dropLast
      | down segment =>
          rw [follow]
          rcases Segment.fileName_cases (h segment List.mem_cons_self) with
            ⟨name, _, hname⟩ | ⟨_, hname⟩
          · rw [hname]
            simp only
            split
            · simp
            · split
              · exact hrest (place ++ [name])
              · simp
              · simp
          · rw [hname]
            simp

theorem find_eq_nulInName_iff (tree : FileTree) (path : Path) :
    tree.find path = .error .nulInName ↔ Char.ofNat 0 ∈ path.text := by
  by_cases hnul : Char.ofNat 0 ∈ path.text
  · simp [find, locate, hnul]
  · refine iff_of_false (fun h => ?_) hnul
    have hlocate : tree.locate path ≠ .error .nulInName := by
      rw [locate, if_neg (by simpa using hnul)]
      split
      · simp
      · exact follow_ne_nulInName (fun segment hstep hmem => hnul (Path.mem_text hstep hmem)) _
    unfold find at h
    split at h
    · rename_i error herror
      rw [Except.error.injEq] at h
      exact hlocate (by rw [herror, h])
    · split at h
      · simp at h
      · simp at h

theorem readTextBy_eq_nulInName_iff (tree : FileTree) (path : Path)
    (decoder : List UInt8 → Except Utf8.Fault (List Char)) :
    tree.view.readTextBy decoder path = .error (.file .nulInName) ↔
      Char.ofNat 0 ∈ path.text := by
  rw [← tree.find_eq_nulInName_iff path]
  unfold FileView.readTextBy FileView.read decodeText
  simp only [view]
  rcases tree.find path with error | entry
  · simp
  · cases entry with
    | directory => simp
    | file bytes =>
        rcases hdecode : decoder bytes with fault | text
        · simp [hdecode]
        · simp [hdecode]

end FileTree

namespace Config

open Json (Value ReadError IsDigitRun integerDigitLimit)

/-! ### Documents -/

/-- A document gives options, or it is refused as a configuration, if it can be shown. -/
theorem options_cases {document : Value} (hshown : document.Showable) (base : Options) :
    (∃ result, options document base = .ok result) ∨
      ∃ message, options document base = .error (.config { message }) := by
  obtain ⟨found, hfound⟩ := exists_violations_of_showable hshown
  cases found with
  | nil => exact Or.inl ⟨_, options_of_violations_eq_nil hfound base⟩
  | cons first others => exact Or.inr ⟨_, by rw [options, hfound]⟩

/-! ### Files -/

/-- What a caller is told to expect: options, or an error of the configuration that names the
file. -/
inductive Reported (path : Path) : Except Fault Options → Prop
  | loaded (options : Options) : Reported path (.ok options)
  | refused (message : String) :
      Reported path (.error (.config { message, path := some (String.ofList path.text) }))

theorem reported_options (path : Path) {document : Value} (hshown : document.Showable)
    (base : Options) : Reported path ((options document base).mapError (withPath path)) := by
  rcases options_cases hshown base with ⟨result, hresult⟩ | ⟨message, hmessage⟩
  · rw [hresult]
    exact .loaded result
  · rw [hmessage]
    exact .refused _

/-- The text of the file has an integer that is too long, before anything else is wrong with it. -/
def HasLongInteger (tree : FileTree) (path : Path) (digits : Nat) : Prop :=
  ∃ text, tree.view.readTextBy Utf8.decodeSigned path = .ok text ∧
    Value.read text = .error (.longInteger digits)

section Cases

variable {tree : FileTree} {path : Path} (base : Options)

theorem load_of_nul (h : Char.ofNat 0 ∈ path.text) :
    load tree.view path base = .error (.file .nulInName path) := by
  have hread := (tree.readTextBy_eq_nulInName_iff path Utf8.decodeSigned).2 h
  simp only [load, hread]

theorem load_of_longInteger {digits : Nat} (h : HasLongInteger tree path digits) :
    load tree.view path base = .error (.json (.longInteger digits)) := by
  obtain ⟨text, htext, hread⟩ := h
  simp only [load, htext, hread]

/-- Everything else that can happen is reported, stage by stage. -/
theorem reported_load (hnul : Char.ofNat 0 ∉ path.text)
    (hlong : ∀ digits, ¬ HasLongInteger tree path digits) :
    Reported path (load tree.view path base) := by
  have hfile := mt (tree.readTextBy_eq_nulInName_iff path Utf8.decodeSigned).1 hnul
  unfold load
  rcases htext : tree.view.readTextBy Utf8.decodeSigned path with error | text
  · simp only
    split
    · rename_i heq
      cases heq
      exact absurd htext hfile
    · rename_i heq
      cases heq
      exact .refused _
    · contradiction
  · have hread : ∀ digits, Value.read text ≠ .error (.longInteger digits) :=
      fun digits hread => hlong digits ⟨text, htext, hread⟩
    simp only
    split
    · rename_i digits heq
      exact absurd heq (hread digits)
    · exact .refused _
    · rename_i document hdocument
      exact reported_options path (showable_of_readable (Json.readable_of_read hdocument)) base

end Cases

/-- When loading a configuration file fails as it should.  For every tree, path and base, loading
gives options or an error of the configuration that names the file, unless the path holds a NUL or
an integer of the text is too long.  A NUL is a fault of the path alone; an integer that is too long
is a run of more digits in the text than the limit allows, and a fault of the reader. -/
theorem load_reported_iff (tree : FileTree) (path : Path) (base : Options) :
    (Reported path (load tree.view path base) ↔
        Char.ofNat 0 ∉ path.text ∧ ∀ digits, ¬ HasLongInteger tree path digits) ∧
      (Char.ofNat 0 ∈ path.text →
        load tree.view path base = .error (.file .nulInName path)) ∧
      ∀ digits, HasLongInteger tree path digits →
        load tree.view path base = .error (.json (.longInteger digits)) ∧
          integerDigitLimit < digits ∧
          ∃ text number, tree.view.readTextBy Utf8.decodeSigned path = .ok text ∧
            IsDigitRun text number ∧ number.length = digits := by
  refine ⟨⟨fun h => ⟨fun hnul => ?_, fun digits hlong => ?_⟩, fun h => ?_⟩, load_of_nul base, ?_⟩
  · rw [load_of_nul base hnul] at h
    cases h
  · rw [load_of_longInteger base hlong] at h
    cases h
  · exact reported_load base h.1 h.2
  · rintro digits ⟨text, htext, hread⟩
    obtain ⟨hdigits, number, hrun, hlength⟩ := Json.isDigitRun_of_read_longInteger hread
    exact ⟨load_of_longInteger base ⟨text, htext, hread⟩, hdigits, text, number, htext, hrun,
      hlength⟩

/-- A file with an indent size of 4301 digits, which is a document and no configuration: loading it
fails, and not with an error of the configuration. -/
theorem load_fails_on_long_integer :
    load (FileTree.empty.put [.named "c.json"] (Utf8.encode
          ("\x7b\x22indentSize\x22: ".toList ++ List.replicate 4301 '1' ++ ['\x7d']))).view
        (.ofText "c.json".toList) {} = .error (.json (.longInteger 4301)) := by
  -- Options cannot be compared, but whether there are any can be told.
  have hload : (load (FileTree.empty.put [.named "c.json"] (Utf8.encode
          ("\x7b\x22indentSize\x22: ".toList ++ List.replicate 4301 '1' ++ ['\x7d']))).view
        (.ofText "c.json".toList) {}).map (fun _ => ()) = .error (.json (.longInteger 4301)) := by
    decide +kernel
  generalize load _ _ _ = outcome at hload ⊢
  cases outcome with
  | error fault => simpa [Except.map] using hload
  | ok options => simp [Except.map] at hload

end Config

end SqlTidy
