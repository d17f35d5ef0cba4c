/-
Module: SqlTidy.Files.Path
Purpose: File paths as sequences of steps.
Main exports: Segment, Step, Path, Path.ofText, Path.text, Path.child
-/
import SqlTidy.Text.Division

namespace SqlTidy

/-- The text can stand between the slashes of a path and lead into a directory: it is not empty, it
has no slash, and it is not one of the two texts of dots that lead elsewhere. -/
def IsSegment (text : List Char) : Prop :=
  text ≠ [] ∧ text ≠ ['.'] ∧ text ≠ ['.', '.'] ∧ '/' ∉ text

instance (text : List Char) : Decidable (IsSegment text) :=
  inferInstanceAs (Decidable (_ ∧ _ ∧ _ ∧ _))

/-- A text that leads into a directory. -/
structure Segment where
  text : List Char
  valid : IsSegment text := by decide +kernel
deriving Repr, DecidableEq

namespace Segment

/-- Text after a segment leaves it one, if there is no slash in the text. -/
theorem isSegment_append {text more : List Char} (h : IsSegment text) (hmore : '/' ∉ more) :
    IsSegment (text ++ more) := by
  obtain ⟨hne, hdot, hdots, hslash⟩ := h
  refine ⟨by simp [hne], ?_, ?_, by simp [hslash, hmore]⟩
  · intro heq
    rcases List.append_eq_singleton_iff.1 heq with ⟨hnil, _⟩ | ⟨hsingle, _⟩
    · exact hne hnil
    · exact hdot hsingle
  · intro heq
    rcases List.append_eq_cons_iff.1 heq with ⟨hnil, _⟩ | ⟨rest, hrest, hsingle⟩
    · exact hne hnil
    · rcases List.append_eq_singleton_iff.1 hsingle.symm with ⟨hnil, _⟩ | ⟨hlast, _⟩
      · exact hdot (by rw [hrest, hnil])
      · exact hdots (by rw [hrest, hlast])

/-- The segment with another one after it. -/
def append (segment suffix : Segment) : Segment where
  text := segment.text ++ suffix.text
  valid := isSegment_append segment.valid suffix.valid.2.2.2

end Segment

/-- A step of a path: to the directory above, or into a directory by a name. -/
inductive Step where
  | up
  | down (name : Segment)
deriving Repr, DecidableEq

namespace Step

/-- The text of a step. -/
def text : Step → List Char
  | up => ['.', '.']
  | down name => name.text

/-- The step that a text between slashes stands for; a single dot stands for none. -/
def ofText? (text : List Char) : Option Step :=
  if text = ['.', '.'] then some up
  else if h : IsSegment text then some (down ⟨text, h⟩)
  else none

end Step

/-- Where a path starts: at the working directory, or at the root of the file system, which is
written as one slash or as two. -/
inductive Anchor where
  | working
  | root
  | doubled
deriving Repr, DecidableEq

/-- The slashes of an anchor. -/
def Anchor.text : Anchor → List Char
  | working => []
  | root => ['/']
  | doubled => ['/', '/']

/-- A path: where it starts, and the steps from there.  Steps up stay, since only the file system
knows where they lead. -/
structure Path where
  anchor : Anchor
  steps : List Step
deriving Repr, DecidableEq

namespace Path

/-- The anchor of a text: exactly two slashes are kept, any other number is one. -/
def anchorOf (text : List Char) : Anchor :=
  match (text.takeWhile (· == '/')).length with
  | 0 => .working
  | 2 => .doubled
  | _ => .root

/-- The non-empty texts between slashes. -/
def segments (text : List Char) : List (List Char) :=
  Text.divide (· == '/') (fun _ => false) text

/-- Reads a path; repeated slashes, single dots and a slash at the end leave no trace. -/
def ofText (text : List Char) : Path :=
  ⟨anchorOf text, (segments text).filterMap Step.ofText?⟩

/-- The path as text; the path of no steps is a single dot. -/
def text (path : Path) : List Char :=
  match path.anchor, path.steps with
  | .working, [] => ['.']
  | anchor, steps => anchor.text ++ ['/'].intercalate (steps.map Step.text)

/-- The path of an entry of a directory. -/
def child (path : Path) (name : Segment) : Path :=
  ⟨path.anchor, path.steps ++ [.down name]⟩

end Path

end SqlTidy
