/-
Module: SqlTidy.Proofs.Normalization
Purpose: Spelling the keywords of a set one after the other changes the case of the characters that
  the keywords cover in the collapsed query, and nothing else.
Main exports: KeywordSet.coverage, KeywordSet.marked, KeywordSet.marked_append,
  KeywordSet.normalize_eq, KeywordSet.fold_normalize, KeywordSet.evenlySpaced_normalize
-/
import SqlTidy.Proofs.Respelling

namespace SqlTidy

open Text

/-!
Each keyword of a set is applied to the text that the keywords before it have left.  That text
differs from the collapsed query in the case of ASCII letters only, and coverage does not depend on
case, so every keyword covers the same characters as it does in the collapsed query itself.
-/

/-! ### Policies one after the other -/

/-- The policy that has the effect of one policy followed by another. -/
def Casing.followedBy (casing : Casing) : Casing → Casing
  | .upper => .upper
  | .lower => .lower
  | .keep => casing

@[simp] theorem Casing.letter_letter (casing next : Casing) (c : Char) :
    next.letter (casing.letter c) = (casing.followedBy next).letter c := by
  cases next with
  | keep => rfl
  | upper =>
      cases casing with
      | upper => exact Char.toUpper_toUpper_eq_toUpper c
      | lower => exact Char.toUpper_toLower_eq_toUpper c
      | keep => rfl
  | lower => exact casing.toLower_letter c

@[simp] theorem Casing.followedBy_self (casing : Casing) : casing.followedBy casing = casing := by
  cases casing <;> rfl

@[simp] theorem Casing.keep_followedBy (casing : Casing) : keep.followedBy casing = casing := by
  cases casing <;> rfl

@[simp] theorem Casing.toLower_recase (casing : Casing) (marked : Char × Bool) :
    (casing.recase marked).toLower = marked.1.toLower := by
  unfold Casing.recase
  split
  · exact casing.toLower_letter marked.1
  · rfl

/-- Recasing changes the case of ASCII letters only. -/
theorem Casing.fold_map_recase (casing : Casing) {text : List Char} {marks : List Bool}
    (h : marks.length = text.length) :
    fold ((text.zip marks).map casing.recase) = fold text := by
  have hfst : (text.zip marks).map Prod.fst = text := List.map_fst_zip (Nat.le_of_eq h.symm)
  calc fold ((text.zip marks).map casing.recase)
      = ((text.zip marks).map Prod.fst).map Char.toLower := by
        simp [fold, Function.comp_def]
    _ = fold text := by rw [hfst, fold]

/-- Recasing under two masks is recasing once under both. -/
theorem Casing.recase_both (casing : Casing) (text : List Char) (marks more : List Bool) :
    (((text.zip marks).map casing.recase).zip more).map casing.recase =
      (text.zip (List.zipWith (· || ·) marks more)).map casing.recase := by
  induction text generalizing marks more with
  | nil => rfl
  | cons c text ih =>
      cases marks with
      | nil => rfl
      | cons mark marks =>
          cases more with
          | nil => rfl
          | cons other more =>
              simp only [List.zip_cons_cons, List.map_cons, List.zipWith_cons_cons, ih,
                List.cons.injEq, and_true]
              cases mark with
              | false => rfl
              | true =>
                  cases other with
                  | false => rfl
                  | true => simp [recase]

theorem Text.evenlySpaced_fold (text : List Char) :
    EvenlySpaced (fold text) ↔ EvenlySpaced text := by
  induction text with
  | nil => exact Iff.rfl
  | cons c text ih =>
      have hspace : c.toLower = ' ' ↔ c = ' ' := by
        simpa using Keyword.fold_eq_space_iff [c]
      have hhead : (∀ d ∈ (fold text).head?, isBlank d = false) ↔
          ∀ d ∈ text.head?, isBlank d = false := by
        cases text with
        | nil => simp
        | cons d text => simp
      rw [fold_cons, EvenlySpaced, EvenlySpaced, isBlank_toLower, hspace, hhead, ih]

theorem Text.EvenlySpaced.of_fold_eq {text other : List Char} (heven : EvenlySpaced text)
    (h : fold other = fold text) : EvenlySpaced other := by
  rw [← evenlySpaced_fold, h, evenlySpaced_fold]
  exact heven

/-! ### Coverage by a set -/

namespace KeywordSet

/-- For each character of a text whether it belongs to a place of one of the keywords. -/
def coverage (set : KeywordSet) (text : List Char) : List Bool :=
  set.keywords.foldr
    (fun keyword marks => List.zipWith (· || ·) (keyword.coverage text) marks)
    (List.replicate text.length false)

theorem coverage_mk_cons (keyword : Keyword) (keywords : List Keyword) (text : List Char) :
    coverage ⟨keyword :: keywords⟩ text =
      List.zipWith (· || ·) (keyword.coverage text) (coverage ⟨keywords⟩ text) := rfl

/-- Every keyword of the set is word-shaped. -/
def WordShaped (set : KeywordSet) : Prop :=
  ∀ keyword ∈ set.keywords, Keyword.WordShaped keyword.words

theorem wordShaped_of_isWordShaped {set : KeywordSet} (h : set.isWordShaped = true) :
    set.WordShaped :=
  fun keyword hkeyword => Keyword.wordShaped_of_isWordShaped (List.all_eq_true.1 h keyword hkeyword)

theorem isWordShaped_standard : standard.isWordShaped = true := by
  decide +kernel

theorem WordShaped.tail {keyword : Keyword} {keywords : List Keyword}
    (h : WordShaped ⟨keyword :: keywords⟩) : WordShaped ⟨keywords⟩ :=
  fun other hother => h other (List.mem_cons_of_mem _ hother)

@[simp] theorem length_coverage (set : KeywordSet) (text : List Char) :
    (set.coverage text).length = text.length := by
  obtain ⟨keywords⟩ := set
  induction keywords with
  | nil => exact List.length_replicate
  | cons keyword keywords ih => simp [coverage_mk_cons, ih]

theorem coverage_fold (set : KeywordSet) (text : List Char) :
    set.coverage (fold text) = set.coverage text := by
  simp only [coverage, Keyword.coverage_fold, length_fold]

theorem coverage_of_fold_eq (set : KeywordSet) {text other : List Char}
    (h : fold text = fold other) : set.coverage text = set.coverage other := by
  rw [← set.coverage_fold text, h, set.coverage_fold other]

/-- Where no keyword goes on, two texts are covered independently. -/
theorem coverage_append {set : KeywordSet} (hset : set.WordShaped) (before : List Char)
    {after : List Char} (h : Keyword.Stops after) :
    set.coverage (before ++ after) = set.coverage before ++ set.coverage after := by
  obtain ⟨keywords⟩ := set
  induction keywords with
  | nil => simp [coverage]
  | cons keyword keywords ih =>
      have hkeyword := hset keyword List.mem_cons_self
      simp only [coverage_mk_cons]
      rw [Keyword.coverage_append hkeyword before h, ih hset.tail, List.zipWith_append (by simp)]

theorem coverage_cons {set : KeywordSet} (hset : set.WordShaped) {c : Char}
    (hc : Keyword.isWordChar c = false) (text : List Char) :
    set.coverage (c :: text) = false :: set.coverage text := by
  obtain ⟨keywords⟩ := set
  induction keywords with
  | nil => rfl
  | cons keyword keywords ih =>
      simp only [coverage_mk_cons]
      rw [Keyword.coverage_cons (hset keyword List.mem_cons_self) hc, ih hset.tail]
      rfl

/-! ### Marked characters -/

/-- The characters of a text, each with whether a keyword of the set covers it. -/
def marked (set : KeywordSet) (text : List Char) : List (Char × Bool) :=
  text.zip (set.coverage text)

theorem map_fst_marked (set : KeywordSet) (text : List Char) :
    (set.marked text).map Prod.fst = text :=
  List.map_fst_zip (by simp)

theorem marked_append {set : KeywordSet} (hset : set.WordShaped) (before : List Char)
    {after : List Char} (h : Keyword.Stops after) :
    set.marked (before ++ after) = set.marked before ++ set.marked after := by
  rw [marked, coverage_append hset before h, List.zip_append (by simp), marked, marked]

theorem marked_cons {set : KeywordSet} (hset : set.WordShaped) {c : Char}
    (hc : Keyword.isWordChar c = false) (text : List Char) :
    set.marked (c :: text) = (c, false) :: set.marked text := by
  rw [marked, coverage_cons hset hc, List.zip_cons_cons, marked]

theorem fold_map_recase_marked (set : KeywordSet) (casing : Casing) (text : List Char) :
    fold ((set.marked text).map casing.recase) = fold text :=
  casing.fold_map_recase (by simp)

/-- The characters keep their marks when the marked ones are recased. -/
theorem marked_map_recase (set : KeywordSet) (casing : Casing) (text : List Char) :
    set.marked ((set.marked text).map casing.recase) =
      (set.marked text).map fun character => (casing.recase character, character.2) := by
  have hcoverage : set.coverage ((set.marked text).map casing.recase) =
      (set.marked text).map Prod.snd := by
    rw [set.coverage_of_fold_eq (set.fold_map_recase_marked casing text)]
    exact (List.map_snd_zip (by simp)).symm
  rw [marked, hcoverage, List.zip_map']

/-! ### All keywords -/

/-- Respelling keyword after keyword is recasing what they cover together.  The induction is on the
keywords: after the first one the text is as evenly spaced as before, and the others cover the same
characters of it. -/
theorem foldl_respell (casing : Casing) {keywords : List Keyword}
    (hset : WordShaped ⟨keywords⟩) {text : List Char} (heven : EvenlySpaced text) :
    keywords.foldl (fun text keyword => keyword.respell (casing.spell keyword) text) text =
      (marked ⟨keywords⟩ text).map casing.recase := by
  induction keywords generalizing text with
  | nil => exact (Keyword.map_recase_replicate_false casing text).symm
  | cons keyword keywords ih =>
      have hkeyword := hset keyword List.mem_cons_self
      have hfold : fold ((text.zip (keyword.coverage text)).map casing.recase) = fold text :=
        casing.fold_map_recase (by simp)
      rw [List.foldl_cons, Keyword.respell_eq hkeyword casing heven,
        ih hset.tail (heven.of_fold_eq hfold), marked, coverage_of_fold_eq _ hfold,
        casing.recase_both, ← coverage_mk_cons]
      rfl

/-- Normalizing a query recases what the keywords cover in the collapsed query. -/
theorem normalize_eq {set : KeywordSet} (hset : set.WordShaped) (casing : Casing)
    (query : List Char) :
    set.normalize casing query = (set.marked (collapse query)).map casing.recase :=
  foldl_respell casing hset (evenlySpaced_collapse query)

theorem fold_normalize {set : KeywordSet} (hset : set.WordShaped) (casing : Casing)
    (query : List Char) : fold (set.normalize casing query) = fold (collapse query) := by
  rw [normalize_eq hset]
  exact set.fold_map_recase_marked casing (collapse query)

theorem evenlySpaced_normalize {set : KeywordSet} (hset : set.WordShaped) (casing : Casing)
    (query : List Char) : EvenlySpaced (set.normalize casing query) :=
  (evenlySpaced_collapse query).of_fold_eq (fold_normalize hset casing query)

end KeywordSet

end SqlTidy
