/-
Module: SqlTidy.Proofs.Lookup
Purpose: When a path cannot be looked up in a tree of files because something in it is too long.
Main exports: FileTree.MeetsLongName, FileTree.TooLong, Segment.fileName_cases,
  FileTree.find_eq_nameTooLong_iff, FileTree.not_tooLong_of_short
-/
import Mathlib
import SqlTidy.Files.Tree
import SqlTidy.Proofs.Division

namespace SqlTidy

/-!
A path is looked up step by step, and the first name that leads nowhere decides the outcome.  So a
name that is too long matters only if the names before it lead to it, and a path may hold such a
name after one that is missing.  Texts of few bytes are never too long as paths, whatever the tree.
-/

namespace FileTree

/-- Steps lead from a place to a name among them that is too long, through directories alone. -/
inductive MeetsLongName (tree : FileTree) : List FileName → List Step → Prop
  | found {place : List FileName} {segment : Segment} {steps : List Step}
      (long : nameLimit < (Utf8.encode segment.text).length) :
      MeetsLongName tree place (.down segment :: steps)
  | up {place : List FileName} {steps : List Step}
      (rest : MeetsLongName tree place.dropLast steps) : MeetsLongName tree place (.up :: steps)
  | down {place : List FileName} {name : FileName} {steps : List Step}
      (directory : tree.entry? (place ++ [name]) = some .directory)
      (rest : MeetsLongName tree (place ++ [name]) steps) :
      MeetsLongName tree place (.down name.toSegment :: steps)

/-- The path can be the name of a file as far as its characters go, but it has too many bytes as a
whole, or leads to a name that has too many. -/
structure TooLong (tree : FileTree) (path : Path) : Prop where
  spellable : Char.ofNat 0 ∉ path.text
  long : pathLimit < (Utf8.encode path.text).length ∨
    tree.MeetsLongName (tree.start path) path.steps

end FileTree

/-! ### Names -/

theorem FileName.eq_of_text_eq {name other : FileName} (h : name.text = other.text) :
    name = other := by
  obtain ⟨⟨text, _⟩, _, _⟩ := name
  obtain ⟨⟨otherText, _⟩, _, _⟩ := other
  obtain rfl : text = otherText := h
  rfl

namespace Segment

theorem fileName_toSegment (name : FileName) : name.toSegment.fileName = .ok name := by
  simp [fileName, name.spellable, name.short]

theorem eq_of_fileName_eq_ok {segment : Segment} {name : FileName}
    (h : segment.fileName = .ok name) : segment = name.toSegment := by
  unfold fileName at h
  split at h
  · split at h
    · rw [← Except.ok.inj h]
    · simp at h
  · simp at h

/-- A segment without a NUL is a name, or it is too long. -/
theorem fileName_cases {segment : Segment} (h : Char.ofNat 0 ∉ segment.text) :
    (∃ name : FileName, segment = name.toSegment ∧ segment.fileName = .ok name) ∨
      nameLimit < (Utf8.encode segment.text).length ∧
        segment.fileName = .error .nameTooLong := by
  by_cases hshort : (Utf8.encode segment.text).length ≤ nameLimit
  · exact Or.inl ⟨⟨segment, h, hshort⟩, rfl, by simp [fileName, h, hshort]⟩
  · exact Or.inr ⟨Nat.not_le.1 hshort, by simp [fileName, h, hshort]⟩

end Segment

namespace Path

theorem mem_intercalate {c d : Char} {texts : List (List Char)} {text : List Char}
    (htext : text ∈ texts) (hc : c ∈ text) : c ∈ [d].intercalate texts := by
  induction texts with
  | nil => simp at htext
  | cons first texts ih =>
      cases texts with
      | nil =>
          rw [List.mem_singleton.1 htext] at hc
          simpa using hc
      | cons next texts =>
          rw [List.intercalate_cons_cons]
          rcases List.mem_cons.1 htext with rfl | hlater
          · simp [hc]
          · simp [ih hlater]

/-- A character of a name is one of the whole path. -/
theorem mem_text {path : Path} {segment : Segment} (hstep : .down segment ∈ path.steps) {c : Char}
    (hc : c ∈ segment.text) : c ∈ path.text := by
  have hsteps : c ∈ ['/'].intercalate (path.steps.map Step.text) :=
    mem_intercalate (List.mem_map_of_mem hstep) hc
  unfold text
  split
  · rename_i hnone
    rw [hnone] at hstep
    simp at hstep
  · exact List.mem_append_right _ hsteps

end Path

/-! ### Taking steps -/

namespace FileTree

variable {tree : FileTree} {place : List FileName} {steps : List Step}

theorem meetsLongName_up_iff :
    tree.MeetsLongName place (.up :: steps) ↔ tree.MeetsLongName place.dropLast steps := by
  constructor
  · intro h
    cases h with
    | up rest => exact rest
  · exact MeetsLongName.up

theorem meetsLongName_down_iff {name : FileName} :
    tree.MeetsLongName place (.down name.toSegment :: steps) ↔
      tree.entry? (place ++ [name]) = some .directory ∧
        tree.MeetsLongName (place ++ [name]) steps := by
  constructor
  · intro h
    generalize hsegment : name.toSegment = segment at h
    cases h with
    | found long => exact absurd name.short (Nat.not_le.2 (hsegment ▸ long))
    | @down _ other _ directory rest =>
        obtain rfl := FileName.eq_of_text_eq (congrArg Segment.text hsegment)
        exact ⟨directory, rest⟩
  · rintro ⟨directory, rest⟩
    exact .down directory rest

theorem not_meetsLongName_nil : ¬ tree.MeetsLongName place [] := by
  intro h
  cases h

/-- Taking steps fails for length exactly if it comes to a name that is too long. -/
theorem follow_eq_nameTooLong_iff
    (hspellable : ∀ segment, .down segment ∈ steps → Char.ofNat 0 ∉ segment.text) :
    tree.follow place steps = .error .nameTooLong ↔ tree.MeetsLongName place steps := by
  induction steps generalizing place with
  | nil => simp [follow, not_meetsLongName_nil]
  | cons step rest ih =>
      have hrest : ∀ segment, .down segment ∈ rest → Char.ofNat 0 ∉ segment.text :=
        fun segment hmem => hspellable segment (List.mem_cons_of_mem _ hmem)
      cases step with
      | up => rw [meetsLongName_up_iff, ← ih hrest, follow]
      | down segment =>
          rcases Segment.fileName_cases (hspellable segment List.mem_cons_self) with
            ⟨name, rfl, hname⟩ | ⟨hlong, hname⟩
          · rw [meetsLongName_down_iff, ← ih hrest, follow, hname]
            cases rest with
            | nil => simp [follow]
            | cons next rest =>
                -- What the name leads to decides whether the other steps are taken.
                rcases hentry : tree.entry? (place ++ [name]) with _ | entry
                · simp [hentry]
                · cases entry <;> simp [hentry]
          · exact iff_of_true (by rw [follow, hname]) (.found hlong)

/-- A path cannot be looked up for length exactly if it is too long. -/
theorem find_eq_nameTooLong_iff {path : Path} :
    tree.find path = .error .nameTooLong ↔ tree.TooLong path := by
  have hfind : tree.find path = .error .nameTooLong ↔
      tree.locate path = .error .nameTooLong := by
    unfold find
    split
    · rename_i error hlocate
      rw [hlocate]
      simp
    · rename_i found hlocate
      rw [hlocate]
      split <;> simp
  have hfollow (hnul : Char.ofNat 0 ∉ path.text) :
      tree.follow (tree.start path) path.steps = .error .nameTooLong ↔
        tree.MeetsLongName (tree.start path) path.steps :=
    follow_eq_nameTooLong_iff fun segment hstep hmem => hnul (Path.mem_text hstep hmem)
  rw [hfind]
  constructor
  · intro h
    unfold locate at h
    split at h
    · simp at h
    · rename_i hnul
      have hspellable : Char.ofNat 0 ∉ path.text := by simpa using hnul
      refine ⟨hspellable, ?_⟩
      split at h
      · rename_i hlong
        exact Or.inl hlong
      · exact Or.inr ((hfollow hspellable).1 h)
  · rintro ⟨hnul, hlong⟩
    have hnul' : ¬ path.text.contains (Char.ofNat 0) = true := by simpa using hnul
    rw [locate, if_neg hnul']
    split
    · rfl
    · rename_i hshort
      exact (hfollow hnul).2 (hlong.resolve_left hshort)

end FileTree

/-! ### Texts of few bytes -/

namespace Utf8

theorem length_encode_append (before after : List Char) :
    (encode (before ++ after)).length = (encode before).length + (encode after).length := by
  simp [encode]

theorem length_encodeChar_pos (c : Char) : 0 < (encodeChar c).length := by
  simp only [encodeChar]
  split
  · simp
  · split
    · simp
    · split
      · simp
      · simp

theorem length_encode_le_of_sublist {part whole : List Char} (h : part.Sublist whole) :
    (encode part).length ≤ (encode whole).length :=
  (h.flatMap encodeChar).length_le

theorem length_encode_pos {text : List Char} (h : text ≠ []) : 0 < (encode text).length := by
  obtain ⟨c, text, rfl⟩ := List.exists_cons_of_ne_nil h
  have := length_encodeChar_pos c
  simp only [encode, List.flatMap_cons, List.length_append]
  omega

end Utf8

namespace Step

theorem text_of_ofText? {text : List Char} {step : Step} (h : ofText? text = some step) :
    step.text = text := by
  unfold ofText? at h
  split at h
  · rename_i hup
    rw [← Option.some.inj h, hup, Step.text]
  · split at h
    · rw [← Option.some.inj h, Step.text]
    · simp at h

theorem text_ne_nil (step : Step) : step.text ≠ [] := by
  cases step with
  | up => simp [Step.text]
  | down segment => exact segment.valid.1

theorem map_text_filterMap_sublist (texts : List (List Char)) :
    ((texts.filterMap ofText?).map Step.text).Sublist texts := by
  induction texts with
  | nil => simp
  | cons text texts ih =>
      cases hstep : ofText? text with
      | none =>
          rw [List.filterMap_cons_none hstep]
          exact ih.cons _
      | some step =>
          rw [List.filterMap_cons_some hstep, List.map_cons, text_of_ofText? hstep]
          exact ih.cons_cons _

end Step

namespace Path

/-- The steps of a path are part of the text that it is read from. -/
theorem flatten_steps_sublist (text : List Char) :
    ((ofText text).steps.map Step.text).flatten.Sublist text := by
  have hsteps : ((ofText text).steps.map Step.text).flatten.Sublist (segments text).flatten :=
    (Step.map_text_filterMap_sublist (segments text)).flatten
  have hsegments : (segments text).flatten = text.filter (!(· == '/') ·) := Text.flatten_divide text
  rw [hsegments] at hsteps
  exact hsteps.trans List.filter_sublist

/-- Joining texts at most doubles their bytes, if every one has some. -/
theorem length_encode_intercalate_le {texts : List (List Char)} (h : ∀ text ∈ texts, text ≠ []) :
    (Utf8.encode (['/'].intercalate texts)).length ≤ 2 * (Utf8.encode texts.flatten).length := by
  induction texts with
  | nil => simp [Utf8.encode]
  | cons text texts ih =>
      have htext := Utf8.length_encode_pos (h text List.mem_cons_self)
      have hrest := ih fun other hother => h other (List.mem_cons_of_mem _ hother)
      have hslash : (Utf8.encode ['/']).length = 1 := by decide
      rw [List.flatten_cons, Utf8.length_encode_append]
      cases texts with
      | nil =>
          rw [List.intercalate_singleton]
          omega
      | cons next texts =>
          rw [List.intercalate_cons_cons, Utf8.length_encode_append, Utf8.length_encode_append,
            hslash]
          omega

theorem length_encode_anchor_le (anchor : Anchor) : (Utf8.encode anchor.text).length ≤ 2 := by
  cases anchor <;> decide

/-- The text of a path has at most twice the bytes of the text that it is read from, and two
more. -/
theorem length_encode_text_le (text : List Char) :
    (Utf8.encode (ofText text).text).length ≤ 2 * (Utf8.encode text).length + 2 := by
  have hanchor := length_encode_anchor_le (ofText text).anchor
  have hsteps := length_encode_intercalate_le
    (List.forall_mem_map.2 fun step (_ : step ∈ (ofText text).steps) => step.text_ne_nil)
  have hflatten := Utf8.length_encode_le_of_sublist (flatten_steps_sublist text)
  unfold Path.text
  split
  · have hdot : (Utf8.encode ['.']).length = 1 := by decide
    omega
  · rw [Utf8.length_encode_append]
    omega

end Path

namespace FileTree

theorem exists_long_of_meetsLongName {tree : FileTree} {place : List FileName}
    {steps : List Step} (h : tree.MeetsLongName place steps) :
    ∃ step ∈ steps, nameLimit < (Utf8.encode step.text).length := by
  induction h with
  | found long => exact ⟨_, List.mem_cons_self, long⟩
  | up _ ih =>
      obtain ⟨step, hstep, hlong⟩ := ih
      exact ⟨step, List.mem_cons_of_mem _ hstep, hlong⟩
  | down _ _ ih =>
      obtain ⟨step, hstep, hlong⟩ := ih
      exact ⟨step, List.mem_cons_of_mem _ hstep, hlong⟩

/-- A text that would not be too long as a name is not too long as a path, in any tree. -/
theorem not_tooLong_of_short (tree : FileTree) {text : List Char}
    (h : (Utf8.encode text).length ≤ nameLimit) : ¬ tree.TooLong (Path.ofText text) := by
  rintro ⟨_, hpath | hname⟩
  · have := Path.length_encode_text_le text
    simp only [nameLimit, pathLimit] at h hpath
    omega
  · obtain ⟨step, hstep, hlong⟩ := exists_long_of_meetsLongName hname
    have hpart : step.text.Sublist text :=
      (List.sublist_flatten_of_mem (List.mem_map_of_mem hstep)).trans
        (Path.flatten_steps_sublist text)
    have := Utf8.length_encode_le_of_sublist hpart
    omega

end FileTree

end SqlTidy
