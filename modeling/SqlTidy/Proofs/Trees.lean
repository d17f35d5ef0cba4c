/-
Module: SqlTidy.Proofs.Trees
Purpose: What writing files changes in a tree, and that looking paths up does not see it.
Main exports: FileTree.isDirectory_iff, FileTree.lookup_put, FileTree.Fits, FileTree.putAll,
  FileTree.Reaches, FileTree.locate_putAll_iff, FileTree.entry?_putAll_of_ne,
  FileTree.lookup_putAll, FileTree.readTextBy_putAll_iff, FileTree.filter_namesIn_putAll
-/
import Mathlib
import SqlTidy.Files.Text
import SqlTidy.Proofs.Lookup

namespace SqlTidy

/-!
The directories of a tree are read off the places of its files.  So writing a file might make a
directory.  It does not if the file goes into a directory that is there already, and then a path
leads to no other place.
-/

namespace FileTree

variable {tree : FileTree} {names other : List FileName} {bytes : List UInt8}

/-! ### Directories -/

theorem isDirectory_iff (tree : FileTree) (names : List FileName) :
    tree.isDirectory names = true ↔
      (∃ directory ∈ tree.workingDirectory :: tree.directories, names <+: directory) ∨
        ∃ place ∈ tree.places, names <+: place ∧ names ≠ place := by
  simp only [isDirectory, isDirectoryAmong, Bool.or_eq_true, List.any_eq_true, Bool.and_eq_true,
    List.isPrefixOf_iff_prefix, bne_iff_ne]

/-- Every directory on the way to a directory is one. -/
theorem isDirectory_of_isPrefix (h : tree.isDirectory names = true) (hbefore : other <+: names) :
    tree.isDirectory other = true := by
  rw [isDirectory_iff] at h ⊢
  rcases h with ⟨directory, hmem, hdirectory⟩ | ⟨place, hmem, hplace, hne⟩
  · exact Or.inl ⟨directory, hmem, hbefore.trans hdirectory⟩
  · refine Or.inr ⟨place, hmem, hbefore.trans hplace, ?_⟩
    rintro rfl
    exact hne (hplace.eq_of_length_le hbefore.length_le)

theorem isDirectory_workingDirectory (tree : FileTree) :
    tree.isDirectory tree.workingDirectory = true :=
  (isDirectory_iff tree _).2 (Or.inl ⟨_, List.mem_cons_self, List.prefix_rfl⟩)

theorem isDirectory_start (tree : FileTree) (path : Path) :
    tree.isDirectory (tree.start path) = true := by
  have hroot : tree.isDirectory [] = true :=
    isDirectory_of_isPrefix tree.isDirectory_workingDirectory List.nil_prefix
  unfold start
  split
  · exact tree.isDirectory_workingDirectory
  · exact hroot
  · exact hroot

theorem mem_places_iff (tree : FileTree) (names : List FileName) :
    names ∈ tree.places ↔ ∃ bytes, tree.files.lookup names = some bytes := by
  rw [← Option.isSome_iff_exists, List.lookup_isSome_iff]
  simp [places]

/-- There is no file in the place of a directory. -/
theorem lookup_of_isDirectory (h : tree.isDirectory names = true) :
    tree.files.lookup names = none := by
  by_contra hsome
  have hplace := (mem_places_iff tree names).2 (Option.ne_none_iff_exists'.1 hsome)
  have hnone : tree.isDirectory names = false := tree.apart names hplace
  rw [h] at hnone
  simp at hnone

theorem entry?_eq_directory_iff (tree : FileTree) (names : List FileName) :
    tree.entry? names = some .directory ↔ tree.isDirectory names = true := by
  by_cases h : tree.isDirectory names = true
  · unfold entry?
    simp [lookup_of_isDirectory h, h]
  · refine iff_of_false (fun hentry => ?_) h
    unfold entry? at hentry
    split at hentry
    · simp at hentry
    · simp [h] at hentry

/-! ### Writing one file -/

/-- The file may be written: it goes into a directory, and it is none itself. -/
structure Fits (tree : FileTree) (names : List FileName) : Prop where
  parent : ∃ parent name, names = parent ++ [name] ∧ tree.isDirectory parent = true
  apart : tree.isDirectory names = false

/-- In a directory there can be a file, since no file is on the way there. -/
theorem Fits.accepts (h : tree.Fits names) : tree.Accepts names := by
  refine ⟨h.apart, fun place hplace hbefore => ?_⟩
  obtain ⟨parent, name, rfl, hparent⟩ := h.parent
  refine (List.prefix_concat_iff.1 hbefore).resolve_right fun hon => ?_
  have hnone : tree.isDirectory place = false := tree.apart place hplace
  rw [isDirectory_of_isPrefix hparent hon] at hnone
  simp at hnone

theorem files_put (h : tree.Accepts names) (bytes : List UInt8) :
    (tree.put names bytes).files = setFile names bytes tree.files := by
  rw [put, dif_pos h]

@[simp] theorem directories_put (tree : FileTree) (names : List FileName) (bytes : List UInt8) :
    (tree.put names bytes).directories = tree.directories := by
  unfold put
  split <;> rfl

@[simp] theorem workingDirectory_put (tree : FileTree) (names : List FileName)
    (bytes : List UInt8) : (tree.put names bytes).workingDirectory = tree.workingDirectory := by
  unfold put
  split <;> rfl

/-- The places of the files stay, and that of a new file comes after them. -/
theorem places_put (tree : FileTree) (names : List FileName) (bytes : List UInt8) :
    ∃ new, (∀ place ∈ new, place = names) ∧
      (tree.put names bytes).places = tree.places ++ new := by
  by_cases h : tree.Accepts names
  · rw [places, files_put h, places_setFile]
    split
    · exact ⟨[], by simp, (List.append_nil _).symm⟩
    · exact ⟨[names], by simp, rfl⟩
  · exact ⟨[], by simp, by rw [put, dif_neg h, List.append_nil]⟩

theorem lookup_setFile (names other : List FileName) (bytes : List UInt8)
    (files : List (List FileName × List UInt8)) :
    (setFile names bytes files).lookup other =
      if other = names then some bytes else files.lookup other := by
  induction files with
  | nil => by_cases h : other = names <;> simp [setFile, List.lookup, h, beq_false_of_ne]
  | cons file files ih =>
      by_cases hfile : file.1 = names
      · rw [setFile, if_pos hfile, List.lookup_cons, List.lookup_cons, hfile]
        by_cases h : other = names
        · simp [h]
        · simp [h, beq_false_of_ne h]
      · rw [setFile, if_neg hfile, List.lookup_cons, List.lookup_cons, ih]
        by_cases h : other = names
        · subst h
          simp [beq_false_of_ne fun heq => hfile heq.symm]
        · simp [h]

/-- A file that is written has the bytes. -/
theorem lookup_put (h : tree.Accepts names) (bytes : List UInt8) :
    (tree.put names bytes).files.lookup names = some bytes := by
  rw [files_put h, lookup_setFile, if_pos rfl]

/-- The other files are as before. -/
theorem lookup_put_of_ne (hne : other ≠ names) (bytes : List UInt8) :
    (tree.put names bytes).files.lookup other = tree.files.lookup other := by
  by_cases h : tree.Accepts names
  · rw [files_put h, lookup_setFile, if_neg hne]
  · rw [put, dif_neg h]

theorem isDirectory_put (h : tree.Fits names) (bytes : List UInt8) (other : List FileName) :
    (tree.put names bytes).isDirectory other = tree.isDirectory other := by
  obtain ⟨new, hnew, hplaces⟩ := places_put tree names bytes
  obtain ⟨parent, name, rfl, hparent⟩ := h.parent
  rw [isDirectory, isDirectoryAmong, hplaces, directories_put, workingDirectory_put,
    List.any_append, ← Bool.or_assoc, ← isDirectoryAmong, ← isDirectory]
  -- The names of the new file lead through its directory, so they make no other directory.
  rw [Bool.or_eq_left_iff_imp]
  intro hany
  obtain ⟨place, hplace, hbefore⟩ := List.any_eq_true.1 hany
  rw [hnew place hplace, Bool.and_eq_true, List.isPrefixOf_iff_prefix, bne_iff_ne] at hbefore
  obtain ⟨hbefore, hne⟩ := hbefore
  exact isDirectory_of_isPrefix hparent ((List.prefix_concat_iff.1 hbefore).resolve_left hne)

theorem Fits.put (h : tree.Fits names) (bytes : List UInt8) (hother : tree.Fits other) :
    (tree.put names bytes).Fits other where
  parent := by
    obtain ⟨parent, name, heq, hparent⟩ := hother.parent
    exact ⟨parent, name, heq, by rw [isDirectory_put h, hparent]⟩
  apart := by rw [isDirectory_put h, hother.apart]

theorem setFile_of_lookup {files : List (List FileName × List UInt8)}
    (h : files.lookup names = some bytes) : setFile names bytes files = files := by
  induction files with
  | nil => simp at h
  | cons file files ih =>
      obtain ⟨place, content⟩ := file
      rw [List.lookup_cons] at h
      by_cases hplace : place = names
      · subst hplace
        obtain rfl : content = bytes := by simpa using h
        simp [setFile]
      · rw [beq_false_of_ne fun heq => hplace heq.symm] at h
        rw [setFile, if_neg hplace, ih h]

/-- Writing what is there changes nothing. -/
theorem put_of_lookup (h : tree.files.lookup names = some bytes) : tree.put names bytes = tree := by
  unfold put
  split
  · obtain ⟨files, directories, workingDirectory, distinct, apart⟩ := tree
    simp only [setFile_of_lookup h]
  · rfl

/-! ### Writing several files -/

/-- The tree after files have been written, one after the other. -/
def putAll (tree : FileTree) (writes : List (List FileName × List UInt8)) : FileTree :=
  writes.foldl (fun tree write => tree.put write.1 write.2) tree

variable {writes : List (List FileName × List UInt8)}

theorem putAll_cons (tree : FileTree) (write : List FileName × List UInt8)
    (writes : List (List FileName × List UInt8)) :
    tree.putAll (write :: writes) = (tree.put write.1 write.2).putAll writes :=
  rfl

@[simp] theorem directories_putAll (tree : FileTree)
    (writes : List (List FileName × List UInt8)) :
    (tree.putAll writes).directories = tree.directories := by
  induction writes generalizing tree with
  | nil => rfl
  | cons write writes ih =>
      rw [putAll_cons, ih, directories_put]

@[simp] theorem workingDirectory_putAll (tree : FileTree)
    (writes : List (List FileName × List UInt8)) :
    (tree.putAll writes).workingDirectory = tree.workingDirectory := by
  induction writes generalizing tree with
  | nil => rfl
  | cons write writes ih =>
      rw [putAll_cons, ih, workingDirectory_put]

theorem isDirectory_putAll (h : ∀ write ∈ writes, tree.Fits write.1) (other : List FileName) :
    (tree.putAll writes).isDirectory other = tree.isDirectory other := by
  induction writes generalizing tree with
  | nil => rfl
  | cons write writes ih =>
      have hwrite := h write List.mem_cons_self
      have hrest : ∀ later ∈ writes, (tree.put write.1 write.2).Fits later.1 := fun later hlater =>
        hwrite.put write.2 (h later (List.mem_cons_of_mem _ hlater))
      rw [putAll_cons, ih hrest, isDirectory_put hwrite]

/-- Files that are not written stay as they are. -/
theorem lookup_putAll_of_ne (tree : FileTree) (h : ∀ write ∈ writes, other ≠ write.1) :
    (tree.putAll writes).files.lookup other = tree.files.lookup other := by
  induction writes generalizing tree with
  | nil => rfl
  | cons write writes ih =>
      have hrest := ih (tree.put write.1 write.2) fun later hlater =>
        h later (List.mem_cons_of_mem _ hlater)
      rw [putAll_cons, hrest, lookup_put_of_ne (h write List.mem_cons_self)]

/-- A file stays as it is if nothing else is written in its place. -/
theorem lookup_putAll_of_same (h : tree.files.lookup names = some bytes)
    (hsame : ∀ write ∈ writes, write.1 = names → write.2 = bytes) :
    (tree.putAll writes).files.lookup names = some bytes := by
  induction writes generalizing tree with
  | nil => exact h
  | cons write writes ih =>
      rw [putAll_cons]
      refine ih ?_ fun later hlater => hsame later (List.mem_cons_of_mem _ hlater)
      by_cases hwrite : write.1 = names
      · rw [hwrite, hsame write List.mem_cons_self hwrite, put_of_lookup h]
        exact h
      · rw [lookup_put_of_ne fun heq => hwrite heq.symm]
        exact h

/-- Once files are written, all of them are there, if no two writes disagree. -/
theorem lookup_putAll (h : ∀ write ∈ writes, tree.Fits write.1)
    (hagree : ∀ write ∈ writes, ∀ other ∈ writes, other.1 = write.1 → other.2 = write.2) :
    ∀ write ∈ writes, (tree.putAll writes).files.lookup write.1 = some write.2 := by
  induction writes generalizing tree with
  | nil => simp
  | cons first writes ih =>
      have hfirst := h first List.mem_cons_self
      intro write hwrite
      rw [putAll_cons]
      rcases List.mem_cons.1 hwrite with rfl | hlater
      · exact lookup_putAll_of_same (lookup_put hfirst.accepts write.2) fun later hlater =>
          hagree write List.mem_cons_self later (List.mem_cons_of_mem _ hlater)
      · refine ih (fun later hlater => ?_) (fun one hone other hother => ?_) write hlater
        · exact hfirst.put first.2 (h later (List.mem_cons_of_mem _ hlater))
        · exact hagree one (List.mem_cons_of_mem _ hone) other (List.mem_cons_of_mem _ hother)

theorem places_putAll (tree : FileTree) (writes : List (List FileName × List UInt8)) :
    ∃ new, (∀ place ∈ new, ∃ write ∈ writes, place = write.1) ∧
      (tree.putAll writes).places = tree.places ++ new := by
  induction writes generalizing tree with
  | nil => exact ⟨[], by simp, by simp [putAll]⟩
  | cons write writes ih =>
      obtain ⟨first, hfirst, hput⟩ := places_put tree write.1 write.2
      obtain ⟨rest, hrest, hplaces⟩ := ih (tree.put write.1 write.2)
      refine ⟨first ++ rest, ?_, ?_⟩
      · intro place hplace
        rcases List.mem_append.1 hplace with hplace | hplace
        · exact ⟨write, List.mem_cons_self, hfirst place hplace⟩
        · obtain ⟨later, hlater, heq⟩ := hrest place hplace
          exact ⟨later, List.mem_cons_of_mem _ hlater, heq⟩
      · rw [putAll_cons, hplaces, hput, List.append_assoc]

/-- Whatever has changed is one of the files that were written. -/
theorem entry?_putAll_of_ne (h : ∀ write ∈ writes, tree.Fits write.1)
    (hother : ∀ write ∈ writes, other ≠ write.1) :
    FileTree.entry? (tree.putAll writes) other = tree.entry? other := by
  unfold entry?
  rw [lookup_putAll_of_ne tree hother, isDirectory_putAll h]

/-- Writing files neither makes a directory nor removes one. -/
theorem entry?_putAll_directory_iff (h : ∀ write ∈ writes, tree.Fits write.1)
    (other : List FileName) :
    FileTree.entry? (tree.putAll writes) other = some .directory ↔
      tree.entry? other = some .directory := by
  rw [entry?_eq_directory_iff, entry?_eq_directory_iff, isDirectory_putAll h]

/-! ### Looking up -/

/-- Steps lead from one place to another, through directories up to the last step, which need not
lead to anything. -/
inductive Reaches (tree : FileTree) : List FileName → List Step → List FileName → Prop
  | here {place : List FileName} : Reaches tree place [] place
  | up {place found : List FileName} {steps : List Step}
      (rest : Reaches tree place.dropLast steps found) : Reaches tree place (.up :: steps) found
  | last {place : List FileName} {name : FileName} :
      Reaches tree place [.down name.toSegment] (place ++ [name])
  | down {place found : List FileName} {name : FileName} {steps : List Step} (more : steps ≠ [])
      (directory : tree.entry? (place ++ [name]) = some .directory)
      (rest : Reaches tree (place ++ [name]) steps found) :
      Reaches tree place (.down name.toSegment :: steps) found

variable {place found : List FileName} {steps : List Step}

theorem reaches_of_follow (h : tree.follow place steps = .ok found) :
    tree.Reaches place steps found := by
  induction steps generalizing place with
  | nil =>
      rw [follow, Except.ok.injEq] at h
      rw [h]
      exact .here
  | cons step rest ih =>
      cases step with
      | up =>
          rw [follow] at h
          exact .up (ih h)
      | down segment =>
          rw [follow] at h
          split at h
          · simp at h
          · rename_i name hname
            obtain rfl := Segment.eq_of_fileName_eq_ok hname
            split at h
            · rename_i hlast
              rw [List.isEmpty_iff] at hlast
              rw [Except.ok.injEq] at h
              rw [← h, hlast]
              exact .last
            · rename_i hmore
              rw [List.isEmpty_iff] at hmore
              split at h
              · rename_i hdirectory
                exact .down hmore hdirectory (ih h)
              · simp at h
              · simp at h

theorem Reaches.follow_eq (h : tree.Reaches place steps found) :
    tree.follow place steps = .ok found := by
  induction h with
  | here => rw [follow]
  | up _ ih => rw [follow, ih]
  | last => simp [follow, Segment.fileName_toSegment]
  | down more directory _ ih => simp [follow, Segment.fileName_toSegment, more, directory, ih]

theorem follow_eq_ok_iff : tree.follow place steps = .ok found ↔ tree.Reaches place steps found :=
  ⟨reaches_of_follow, Reaches.follow_eq⟩

/-- Where steps lead is a matter of the directories alone. -/
theorem Reaches.of_directories {other : FileTree} (h : tree.Reaches place steps found)
    (hdirectory : ∀ names, tree.entry? names = some .directory →
      other.entry? names = some .directory) : other.Reaches place steps found := by
  induction h with
  | here => exact .here
  | up _ ih => exact .up ih
  | last => exact .last
  | down more directory _ ih => exact .down more (hdirectory _ directory) ih

/-- All steps but the last lead to a directory, if the last one is a name in it. -/
theorem Reaches.of_concat {segment : Segment}
    (h : tree.Reaches place (steps ++ [.down segment]) found)
    (hplace : tree.isDirectory place = true) :
    ∃ parent name, segment = FileName.toSegment name ∧ tree.Reaches place steps parent ∧
      tree.isDirectory parent = true ∧ found = parent ++ [name] := by
  induction steps generalizing place with
  | nil =>
      cases h with
      | last => exact ⟨_, _, rfl, .here, hplace, rfl⟩
      | down more => exact absurd rfl more
  | cons first rest ih =>
      rw [List.cons_append] at h
      generalize htail : rest ++ [Step.down segment] = tail at h
      cases h with
      | up hrest =>
          subst htail
          have habove := isDirectory_of_isPrefix hplace (List.dropLast_prefix place)
          obtain ⟨parent, name, hname, hparent, hdirectory, hfound⟩ := ih hrest habove
          exact ⟨parent, name, hname, .up hparent, hdirectory, hfound⟩
      | last => simp at htail
      | down _ directory hrest =>
          subst htail
          obtain ⟨parent, name, hname, hparent, hdirectory, hfound⟩ :=
            ih hrest ((entry?_eq_directory_iff tree _).1 directory)
          refine ⟨parent, name, hname, ?_, hdirectory, hfound⟩
          cases rest with
          | nil =>
              cases hparent with
              | here => exact .last
          | cons next rest => exact .down (List.cons_ne_nil next rest) directory hparent

theorem locate_eq_ok_iff {path : Path} :
    tree.locate path = .ok found ↔
      Char.ofNat 0 ∉ path.text ∧ (Utf8.encode path.text).length ≤ pathLimit ∧
        tree.Reaches (tree.start path) path.steps found := by
  rw [← follow_eq_ok_iff, locate]
  by_cases hnul : Char.ofNat 0 ∈ path.text
  · simp [hnul]
  · by_cases hlong : pathLimit < (Utf8.encode path.text).length
    · simp [hnul, hlong, Nat.not_le.2 hlong]
    · simp [hnul, hlong, Nat.not_lt.1 hlong]

@[simp] theorem start_putAll (tree : FileTree) (writes : List (List FileName × List UInt8))
    (path : Path) : (tree.putAll writes).start path = tree.start path := by
  simp only [start, workingDirectory_putAll]

/-- A path leads to the same place before and after files are written. -/
theorem locate_putAll_iff (h : ∀ write ∈ writes, tree.Fits write.1) {path : Path} :
    (tree.putAll writes).locate path = .ok found ↔ tree.locate path = .ok found := by
  rw [locate_eq_ok_iff, locate_eq_ok_iff, start_putAll]
  refine and_congr_right' (and_congr_right' ⟨fun hreaches => ?_, fun hreaches => ?_⟩)
  · exact hreaches.of_directories fun names => (entry?_putAll_directory_iff h names).1
  · exact hreaches.of_directories fun names => (entry?_putAll_directory_iff h names).2

/-- The path of an entry of a directory leads to the entry's name in that directory. -/
theorem locate_child {directory : Path} {segment : Segment}
    (hchild : tree.locate (directory.child segment) = .ok found) {parent : List FileName}
    (hdirectory : tree.locate directory = .ok parent) :
    ∃ name, segment = FileName.toSegment name ∧ found = parent ++ [name] ∧
      tree.isDirectory parent = true := by
  obtain ⟨_, _, hreaches⟩ := locate_eq_ok_iff.1 hchild
  obtain ⟨_, _, hparent⟩ := locate_eq_ok_iff.1 hdirectory
  obtain ⟨other, name, hname, hother, hisDirectory, rfl⟩ :=
    hreaches.of_concat (isDirectory_start tree _)
  have hsame : other = parent :=
    Except.ok.inj ((follow_eq_ok_iff.2 hother).symm.trans (follow_eq_ok_iff.2 hparent))
  subst hsame
  exact ⟨name, hname, rfl, hisDirectory⟩

theorem write_eq_ok_iff {next : FileTree} {path : Path} :
    tree.write path bytes = .ok next ↔
      ∃ names, tree.locate path = .ok names ∧ tree.isDirectory names = false ∧
        next = tree.put names bytes := by
  rw [write.eq_def]
  rcases hlocate : tree.locate path with error | names
  · simp
  · by_cases hdirectory : tree.isDirectory names = true
    · simp [hdirectory]
    · simp [hdirectory, @eq_comm _ next]

/-! ### Reading -/

theorem entry?_eq_file_iff (tree : FileTree) (names : List FileName) (bytes : List UInt8) :
    tree.entry? names = some (.file bytes) ↔ tree.files.lookup names = some bytes := by
  unfold entry?
  split
  · rename_i found hlookup
    simp [hlookup]
  · rename_i hlookup
    rw [hlookup]
    split <;> simp

theorem find_eq_file_iff {path : Path} :
    tree.find path = .ok (.file bytes) ↔
      ∃ names, tree.locate path = .ok names ∧ tree.files.lookup names = some bytes := by
  unfold find
  split
  · rename_i error hlocate
    simp [hlocate]
  · rename_i names hlocate
    rw [hlocate]
    have hentry := entry?_eq_file_iff tree names bytes
    split
    · rename_i entry hfound
      simp [← hentry, hfound]
    · rename_i hfound
      simp [← hentry, hfound]

variable {decoder : List UInt8 → Except Utf8.Fault (List Char)} {text : List Char}

theorem readTextBy_eq_ok_iff {path : Path} :
    tree.view.readTextBy decoder path = .ok text ↔
      ∃ bytes, tree.find path = .ok (.file bytes) ∧ decodeText decoder bytes = .ok text := by
  unfold FileView.readTextBy FileView.read
  simp only [view]
  rcases hfind : tree.find path with error | entry
  · simp
  · cases entry with
    | file bytes => simp
    | directory => simp

/-- A file is read as before if others have been written. -/
theorem readTextBy_putAll_iff {path : Path} (h : ∀ write ∈ writes, tree.Fits write.1)
    (hpath : ∀ write ∈ writes, tree.locate path ≠ .ok write.1) :
    (tree.putAll writes).view.readTextBy decoder path = .ok text ↔
      tree.view.readTextBy decoder path = .ok text := by
  have hfind : ∀ bytes, (tree.putAll writes).find path = .ok (.file bytes) ↔
      tree.find path = .ok (.file bytes) := by
    intro bytes
    rw [find_eq_file_iff, find_eq_file_iff]
    refine exists_congr fun names => ?_
    rw [locate_putAll_iff h]
    refine and_congr_right fun hlocate => ?_
    have hother : ∀ write ∈ writes, names ≠ write.1 := by
      rintro write hwrite rfl
      exact hpath write hwrite hlocate
    rw [lookup_putAll_of_ne tree hother]
  simp only [readTextBy_eq_ok_iff, hfind]

/-! ### Names in a directory -/

theorem filter_eraseDups (p : FileName → Bool) :
    ∀ values : List FileName, values.eraseDups.filter p = (values.filter p).eraseDups
  | [] => rfl
  | value :: rest => by
      have ih := filter_eraseDups p (rest.filter fun other => !other == value)
      rw [List.eraseDups_cons]
      by_cases hvalue : p value = true
      · rw [List.filter_cons_of_pos hvalue, List.filter_cons_of_pos hvalue, List.eraseDups_cons, ih,
          List.filter_filter, List.filter_filter]
        simp only [Bool.and_comm]
      · -- A value that is left out may have hidden nothing but its own repetitions.
        rw [List.filter_cons_of_neg hvalue, List.filter_cons_of_neg hvalue, ih, List.filter_filter]
        congr 1
        apply List.filter_congr
        intro other _
        by_cases heq : other = value
        · subst heq
          simpa using hvalue
        · simp [heq]
termination_by values => values.length
decreasing_by
  have := List.length_filter_le (fun other => !other == value) rest
  simp only [List.length_cons]
  omega

theorem nameAfter?_concat (names : List FileName) (name : FileName) :
    nameAfter? names (names ++ [name]) = some name := by
  simp [nameAfter?]

/-- The names in a directory stay, apart from those of files that are written. -/
theorem filter_namesIn_putAll (tree : FileTree) (p : FileName → Bool)
    (h : ∀ write ∈ writes, ∀ name, nameAfter? names write.1 = some name → p name = false) :
    ((tree.putAll writes).namesIn names).filter p = (tree.namesIn names).filter p := by
  obtain ⟨new, hnew, hplaces⟩ := places_putAll tree writes
  have hskip : (new.filterMap (nameAfter? names)).filter p = [] := by
    rw [List.filter_eq_nil_iff]
    intro name hname
    obtain ⟨place, hplace, hafter⟩ := List.mem_filterMap.1 hname
    obtain ⟨write, hwrite, rfl⟩ := hnew place hplace
    simp [h write hwrite name hafter]
  rw [namesIn, namesIn, filter_eraseDups, filter_eraseDups, hplaces, directories_putAll,
    workingDirectory_putAll]
  simp only [List.filterMap_append, List.filter_append, hskip, List.append_nil]

end FileTree

end SqlTidy
