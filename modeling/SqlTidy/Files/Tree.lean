/-
Module: SqlTidy.Files.Tree
Purpose: A tree of files as a value: what is in it, and how writing changes it.
Main exports: FileName, FileTree, FileTree.find, FileTree.view, FileTree.write, FileTree.entries
-/
import SqlTidy.Files.View
import SqlTidy.Text.Utf8

namespace SqlTidy

/-! ### Names -/

/-- The greatest number of bytes in a name. -/
def nameLimit : Nat := 255

/-- A name that a file or a directory can have. -/
structure FileName extends Segment where
  spellable : Char.ofNat 0 ∉ text := by decide +kernel
  short : (Utf8.encode text).length ≤ nameLimit := by decide +kernel
deriving Repr, DecidableEq

/-- The name with a text that is known to be one. -/
def FileName.named (text : String)
    (valid : IsSegment text.toList := by decide +kernel)
    (spellable : Char.ofNat 0 ∉ text.toList := by decide +kernel)
    (short : (Utf8.encode text.toList).length ≤ nameLimit := by decide +kernel) : FileName :=
  ⟨⟨text.toList, valid⟩, spellable, short⟩

/-- The name that a segment is, if a file can have it. -/
def Segment.fileName (segment : Segment) : Except FileError FileName :=
  if hspellable : Char.ofNat 0 ∉ segment.text then
    if hshort : (Utf8.encode segment.text).length ≤ nameLimit then
      .ok ⟨segment, hspellable, hshort⟩
    else .error .nameTooLong
  else .error .nulInName

/-! ### Trees -/

/-- The names lead to a directory: one of those that are given, or one on the way to a place that
is. -/
def isDirectoryAmong (directories places : List (List FileName)) (names : List FileName) : Bool :=
  directories.any names.isPrefixOf ||
    places.any fun place => names.isPrefixOf place && names != place

/-- The files of a file system by the names that lead to them from its root, the directories that
need not hold any, and the working directory.  There are no links.  A place has one file at most,
and none if it is a directory. -/
structure FileTree where
  files : List (List FileName × List UInt8)
  directories : List (List FileName)
  workingDirectory : List FileName
  distinct : (files.map Prod.fst).Nodup := by decide +kernel
  apart : ∀ place ∈ files.map Prod.fst,
    isDirectoryAmong (workingDirectory :: directories) (files.map Prod.fst) place = false := by
      decide +kernel
deriving Repr, DecidableEq

namespace FileTree

/-- The tree of nothing but a working directory. -/
def empty : FileTree :=
  { files := [], directories := [], workingDirectory := [] }

/-- The places of the files. -/
def places (tree : FileTree) : List (List FileName) :=
  tree.files.map Prod.fst

/-- The names lead to a directory: the working directory, one that was made, or one on the way to a
file or to either of those. -/
def isDirectory (tree : FileTree) (names : List FileName) : Bool :=
  isDirectoryAmong (tree.workingDirectory :: tree.directories) tree.places names

/-- What the names lead to. -/
def entry? (tree : FileTree) (names : List FileName) : Option Entry :=
  match tree.files.lookup names with
  | some bytes => some (.file bytes)
  | none => if tree.isDirectory names then some .directory else none

/-! ### Looking up -/

/-- The greatest number of bytes in a path. -/
def pathLimit : Nat := 4095

/-- Takes steps from a directory up to the last one, which need not lead to anything.  Every step
before the last must lead to a directory; above the root there is only the root. -/
def follow (tree : FileTree) : List FileName → List Step → Except FileError (List FileName)
  | place, [] => .ok place
  | place, .up :: rest => follow tree place.dropLast rest
  | place, .down segment :: rest =>
      match segment.fileName with
      | .error error => .error error
      | .ok name =>
          if rest.isEmpty then .ok (place ++ [name])
          else
            match tree.entry? (place ++ [name]) with
            | some .directory => follow tree (place ++ [name]) rest
            | some (.file _) => .error .notDirectory
            | none => .error .missing

/-- The directory where the steps of a path start. -/
def start (tree : FileTree) (path : Path) : List FileName :=
  match path.anchor with
  | .working => tree.workingDirectory
  | .root | .doubled => []

/-- The place that a path leads to. -/
def locate (tree : FileTree) (path : Path) : Except FileError (List FileName) :=
  if path.text.contains (Char.ofNat 0) then .error .nulInName
  else if pathLimit < (Utf8.encode path.text).length then .error .nameTooLong
  else tree.follow (tree.start path) path.steps

/-- What a path leads to. -/
def find (tree : FileTree) (path : Path) : Except FileError Entry :=
  match tree.locate path with
  | .error error => .error error
  | .ok names =>
      match tree.entry? names with
      | some entry => .ok entry
      | none => .error .missing

/-- What can be seen of the tree. -/
def view (tree : FileTree) : FileView :=
  ⟨tree.find⟩

/-! ### Writing -/

/-- The files with new bytes for the one at the names, which is added if it is not there. -/
def setFile (names : List FileName) (bytes : List UInt8) :
    List (List FileName × List UInt8) → List (List FileName × List UInt8)
  | [] => [(names, bytes)]
  | file :: files =>
      if file.1 = names then (names, bytes) :: files else file :: setFile names bytes files

/-- A file can be at the names: there is no directory, and no other file on the way. -/
def Accepts (tree : FileTree) (names : List FileName) : Prop :=
  tree.isDirectory names = false ∧ ∀ place ∈ tree.places, place <+: names → place = names

instance (tree : FileTree) (names : List FileName) : Decidable (tree.Accepts names) :=
  inferInstanceAs (Decidable (_ ∧ _))

/-- Places stay, and a new one comes after them. -/
theorem places_setFile (names : List FileName) (bytes : List UInt8)
    (files : List (List FileName × List UInt8)) :
    (setFile names bytes files).map Prod.fst =
      if names ∈ files.map Prod.fst then files.map Prod.fst
      else files.map Prod.fst ++ [names] := by
  induction files with
  | nil => simp [setFile]
  | cons file files ih =>
      by_cases hfile : file.1 = names
      · simp [setFile, hfile]
      · have hfile' : ¬ names = file.1 := fun h => hfile h.symm
        rw [setFile, if_neg hfile, List.map_cons, ih]
        by_cases hmem : names ∈ files.map Prod.fst
        · simp [hmem]
        · simp [hmem, hfile']

theorem distinct_setFile {files : List (List FileName × List UInt8)}
    (h : (files.map Prod.fst).Nodup) (names : List FileName) (bytes : List UInt8) :
    ((setFile names bytes files).map Prod.fst).Nodup := by
  rw [places_setFile]
  split
  · exact h
  · rename_i hnew
    rw [List.nodup_append]
    refine ⟨h, by simp, ?_⟩
    intro place hplace other hother
    rw [List.mem_singleton.1 hother]
    rintro rfl
    exact hnew hplace

theorem apart_setFile {tree : FileTree} {names : List FileName} (h : tree.Accepts names)
    (bytes : List UInt8) :
    ∀ place ∈ (setFile names bytes tree.files).map Prod.fst,
      isDirectoryAmong (tree.workingDirectory :: tree.directories)
        ((setFile names bytes tree.files).map Prod.fst) place = false := by
  rw [places_setFile]
  split
  · exact tree.apart
  · intro place hplace
    have hold : isDirectoryAmong (tree.workingDirectory :: tree.directories)
        (tree.files.map Prod.fst) place = false := by
      rcases List.mem_append.1 hplace with hmem | hmem
      · exact tree.apart place hmem
      · rw [List.mem_singleton.1 hmem]
        exact h.1
    have hnew : (place.isPrefixOf names && place != names) = false := by
      rcases List.mem_append.1 hplace with hmem | hmem
      · by_cases hbefore : place <+: names
        · simp [h.2 place hmem hbefore]
        · rw [← List.isPrefixOf_iff_prefix, Bool.not_eq_true] at hbefore
          rw [hbefore, Bool.false_and]
      · simp [List.mem_singleton.1 hmem]
    rw [isDirectoryAmong, Bool.or_eq_false_iff] at hold ⊢
    refine ⟨hold.1, ?_⟩
    rw [List.any_append, hold.2, Bool.false_or]
    simpa using hnew

/-- Gives the file at the names new bytes, or adds it.  Where no file can be, nothing changes. -/
def put (tree : FileTree) (names : List FileName) (bytes : List UInt8) : FileTree :=
  if h : tree.Accepts names then
    { tree with
      files := setFile names bytes tree.files
      distinct := distinct_setFile tree.distinct names bytes
      apart := apart_setFile h bytes }
  else tree

/-- Writes the bytes of a file, which is made if it is not there. -/
def write (tree : FileTree) (path : Path) (bytes : List UInt8) : Except FileError FileTree :=
  match tree.locate path with
  | .error error => .error error
  | .ok names => if tree.isDirectory names then .error .isDirectory else .ok (tree.put names bytes)

theorem apart_makeDirectory {tree : FileTree} {names : List FileName}
    (h : ∀ place ∈ tree.places, ¬ place <+: names) :
    ∀ place ∈ tree.files.map Prod.fst,
      isDirectoryAmong (tree.workingDirectory :: names :: tree.directories)
        (tree.files.map Prod.fst) place = false := by
  intro place hplace
  have hold := tree.apart place hplace
  have hbefore : place.isPrefixOf names = false := by
    rw [← Bool.not_eq_true, List.isPrefixOf_iff_prefix]
    exact h place hplace
  simp only [isDirectoryAmong, List.any_cons, Bool.or_eq_false_iff] at hold ⊢
  exact ⟨⟨hold.1.1, hbefore, hold.1.2⟩, hold.2⟩

/-- Makes a directory.  Where none can be, nothing changes. -/
def makeDirectory (tree : FileTree) (names : List FileName) : FileTree :=
  if h : ∀ place ∈ tree.places, ¬ place <+: names then
    { tree with directories := names :: tree.directories, apart := apart_makeDirectory h }
  else tree

/-! ### Directories -/

/-- The name that follows the first names of a longer sequence. -/
def nameAfter? (names longer : List FileName) : Option FileName :=
  if names.isPrefixOf longer then (longer.drop names.length).head? else none

/-- The names in a directory, in no particular order. -/
def namesIn (tree : FileTree) (names : List FileName) : List FileName :=
  (tree.places ++ tree.workingDirectory :: tree.directories).filterMap (nameAfter? names)
    |>.eraseDups

/-- The names in the directory at a path; there are none in a file, or where nothing is. -/
def entries (tree : FileTree) (path : Path) : List FileName :=
  match tree.locate path with
  | .ok names => if tree.isDirectory names then tree.namesIn names else []
  | .error _ => []

end FileTree

end SqlTidy
