/-
Module: SqlTidy.Proofs.Places
Purpose: The places of a keyword as the leftmost ones that do not overlap, and normalizing as one
  rewriting of the collapsed query at the places of all keywords.
Main exports: Keyword.TakenAt, Keyword.Covers, Keyword.getElem?_flags, Keyword.coverage_eq_true_iff,
  KeywordSet.coverage_eq_true_iff, KeywordSet.normalize_congr, normalize_eq_one_shot
-/
import SqlTidy.Proofs.Normalization

namespace SqlTidy

open Text

/-!
`Keyword.flags` goes through the runs of a text from left to right.  Here the places that it finds
are described without a scan: a place is taken where the keyword stands and where no place that is
taken before it reaches.  A character is covered if the runs of a taken place hold it.  The order of
the keywords in a set does not occur in this description.
-/

namespace Keyword

/-- The number of runs that a place takes up: the words, and the spaces between them. -/
def width (words : List (List Char)) : Nat :=
  2 * words.length - 1

/-- The words stand in the runs after the first `start` ones. -/
def StandsAt (words runs : List (List Char)) (start : Nat) : Prop :=
  matchesRuns words (runs.drop start) = true

/-- The words stand after the first `start` runs, and no place that is taken before reaches as far
as there. -/
def TakenAt (words runs : List (List Char)) (start : Nat) : Prop :=
  StandsAt words runs start ∧
    ∀ earlier < start, TakenAt words runs earlier → earlier + width words ≤ start
termination_by start

theorem takenAt_iff {words runs : List (List Char)} {start : Nat} :
    TakenAt words runs start ↔
      StandsAt words runs start ∧
        ∀ earlier < start, TakenAt words runs earlier → earlier + width words ≤ start := by
  rw [TakenAt]

/-- A run, by its number, belongs to a taken place. -/
def InPlace (words runs : List (List Char)) (index : Nat) : Prop :=
  ∃ start, TakenAt words runs start ∧ start ≤ index ∧ index < start + width words

end Keyword

/-- The number of characters in the first `count` runs. -/
def Text.charsBefore (runs : List (List Char)) (count : Nat) : Nat :=
  (runs.take count).flatten.length

/-- A character of a text, by its number, belongs to a taken place of the keyword. -/
def Keyword.Covers (keyword : Keyword) (text : List Char) (index : Nat) : Prop :=
  ∃ start, TakenAt keyword.words (runs text) start ∧
    charsBefore (runs text) start ≤ index ∧
    index < charsBefore (runs text) (start + width keyword.words)

/-! ### The scan finds the taken places -/

namespace Keyword

theorem width_of_matchesRuns {words runs : List (List Char)} (h : matchesRuns words runs = true) :
    width words = 2 * words.length - 2 + 1 := by
  cases words with
  | nil => simp [matchesRuns] at h
  | cons word words =>
      simp only [width, List.length_cons]
      omega

/-- After the first `count` runs, the scan leaves `pending` more to a place found before: exactly
the runs that a place taken among the first ones reaches over. -/
def Reaches (words runs : List (List Char)) (count pending : Nat) : Prop :=
  ∀ index, count ≤ index → (index < count + pending ↔
    ∃ start < count, TakenAt words runs start ∧ index < start + width words)

namespace Reaches

variable {words runs : List (List Char)} {count pending : Nat}

theorem start (words runs : List (List Char)) : Reaches words runs 0 0 := by
  intro index _
  simp

/-- A pending run belongs to a place, and no place is taken at it. -/
theorem skip (h : Reaches words runs count (pending + 1)) :
    InPlace words runs count ∧ Reaches words runs (count + 1) pending := by
  obtain ⟨first, hfirst, htaken, hover⟩ := (h count le_rfl).1 (by omega)
  refine ⟨⟨first, htaken, by omega, hover⟩, ?_⟩
  intro index hindex
  have hiff := h index (by omega)
  constructor
  · intro hlt
    obtain ⟨start, hstart, hreach⟩ := hiff.1 (by omega)
    exact ⟨start, by omega, hreach⟩
  · rintro ⟨start, hstart, hstarts, hlt⟩
    rcases Nat.lt_succ_iff_lt_or_eq.1 hstart with hless | rfl
    · have := hiff.2 ⟨start, hless, hstarts, hlt⟩
      omega
    · have := (takenAt_iff.1 hstarts).2 first hfirst htaken
      omega

/-- With no run pending, all places taken so far have ended. -/
theorem ends (h : Reaches words runs count 0) :
    ∀ start < count, TakenAt words runs start → start + width words ≤ count := by
  intro start hstart htaken
  by_contra hover
  have := (h count le_rfl).2 ⟨start, hstart, htaken, by omega⟩
  omega

/-- With no run pending, a place is taken where the words stand. -/
theorem take (h : Reaches words runs count 0) (hstands : StandsAt words runs count) :
    InPlace words runs count ∧ Reaches words runs (count + 1) (2 * words.length - 2) := by
  have htaken : TakenAt words runs count := takenAt_iff.2 ⟨hstands, h.ends⟩
  have hwidth : width words = 2 * words.length - 2 + 1 := width_of_matchesRuns hstands
  refine ⟨⟨count, htaken, le_rfl, by omega⟩, ?_⟩
  intro index hindex
  constructor
  · intro hlt
    exact ⟨count, by omega, htaken, by omega⟩
  · rintro ⟨start, hstart, hstarts, hlt⟩
    rcases Nat.lt_succ_iff_lt_or_eq.1 hstart with hless | rfl
    · have := h.ends start hless hstarts
      omega
    · omega

/-- With no run pending, a run belongs to no place unless the words stand at it. -/
theorem pass (h : Reaches words runs count 0) (hstands : ¬ StandsAt words runs count) :
    ¬ InPlace words runs count ∧ Reaches words runs (count + 1) 0 := by
  have hfree : ¬ TakenAt words runs count := fun htaken => hstands (takenAt_iff.1 htaken).1
  constructor
  · rintro ⟨start, htaken, hle, hlt⟩
    rcases Nat.lt_or_eq_of_le hle with hless | rfl
    · have := h.ends start hless htaken
      omega
    · exact hfree htaken
  · intro index hindex
    constructor
    · intro hlt
      omega
    · rintro ⟨start, hstart, hstarts, hlt⟩
      rcases Nat.lt_succ_iff_lt_or_eq.1 hstart with hless | rfl
      · have := h.ends start hless hstarts
        omega
      · exact absurd hstarts hfree

end Reaches

/-- The flags of the runs after the first `count` ones tell which of them belong to a taken place.
The induction is on these runs. -/
theorem getElem?_flags {words all : List (List Char)} {count pending : Nat}
    (h : Reaches words all count pending) {runs : List (List Char)}
    (hruns : all.drop count = runs) (index : Nat) :
    (flags words pending runs)[index]? = some true ↔
      index < runs.length ∧ InPlace words all (count + index) := by
  induction runs generalizing count pending index with
  | nil => simp [flags]
  | cons run rest ih =>
      have hrest : all.drop (count + 1) = rest := by
        rw [← List.drop_drop, hruns]
        rfl
      -- After the first run, its flag is out of the way and everything is one run further on.
      have hnext : ∀ {more : Nat} (flag : Bool), Reaches words all (count + 1) more →
          ∀ index, (flag :: flags words more rest)[index + 1]? = some true ↔
            index + 1 < (run :: rest).length ∧ InPlace words all (count + (index + 1)) := by
        intro more flag hreaches index
        rw [List.getElem?_cons_succ, ih hreaches hrest index, List.length_cons,
          Nat.add_assoc count 1, Nat.add_comm 1]
        simp
      cases pending with
      | succ pending =>
          obtain ⟨hplace, hreaches⟩ := h.skip
          rw [flags]
          cases index with
          | zero => simpa using hplace
          | succ index => exact hnext true hreaches index
      | zero =>
          by_cases hmatch : matchesRuns words (run :: rest) = true
          · obtain ⟨hplace, hreaches⟩ := h.take (by rw [StandsAt, hruns, hmatch])
            rw [flags, if_pos hmatch]
            cases index with
            | zero => simpa using hplace
            | succ index => exact hnext true hreaches index
          · obtain ⟨hplace, hreaches⟩ := h.pass (by rwa [StandsAt, hruns])
            rw [flags, if_neg hmatch]
            cases index with
            | zero => simpa using hplace
            | succ index => exact hnext false hreaches index

end Keyword

/-! ### From runs to characters -/

namespace Text

theorem charsBefore_cons (run : List Char) (runs : List (List Char)) (count : Nat) :
    charsBefore (run :: runs) (count + 1) = run.length + charsBefore runs count := by
  simp [charsBefore]

theorem charsBefore_le_of_le (runs : List (List Char)) {count more : Nat} (h : count ≤ more) :
    charsBefore runs count ≤ charsBefore runs more := by
  have htake : runs.take more = runs.take count ++ (runs.drop count).take (more - count) := by
    rw [← List.take_add, Nat.add_sub_cancel' h]
  rw [charsBefore, charsBefore, htake, List.flatten_append, List.length_append]
  omega

theorem charsBefore_le_length (runs : List (List Char)) (count : Nat) :
    charsBefore runs count ≤ runs.flatten.length := by
  have hsplit := congrArg List.length (congrArg List.flatten (List.take_append_drop count runs))
  rw [List.flatten_append, List.length_append] at hsplit
  rw [charsBefore]
  omega

end Text

namespace Keyword

/-- The flag of a character is that of the run that holds it. -/
theorem getElem?_spreadFlags {marks : List Bool} {runs : List (List Char)}
    (h : marks.length = runs.length) (index : Nat) (mark : Bool) :
    (spreadFlags marks runs)[index]? = some mark ↔
      ∃ number, marks[number]? = some mark ∧ charsBefore runs number ≤ index ∧
        index < charsBefore runs (number + 1) := by
  induction runs generalizing marks index with
  | nil =>
      obtain rfl : marks = [] := List.length_eq_zero_iff.1 h
      simp [spreadFlags]
  | cons run runs ih =>
      obtain ⟨first, marks, rfl⟩ := List.exists_cons_of_length_eq_add_one h
      have hlength : marks.length = runs.length := by simpa using h
      have hspread : spreadFlags (first :: marks) (run :: runs) =
          List.replicate run.length first ++ spreadFlags marks runs := by
        simp [spreadFlags]
      rw [hspread]
      by_cases hindex : index < run.length
      · rw [List.getElem?_append_left (by simpa using hindex),
          List.getElem?_replicate_of_lt hindex]
        constructor
        · intro hfirst
          exact ⟨0, hfirst, by simp [charsBefore], by simpa [charsBefore] using hindex⟩
        · rintro ⟨number, hmark, hle, _⟩
          cases number with
          | zero => exact hmark
          | succ number =>
              rw [charsBefore_cons] at hle
              omega
      · obtain ⟨rest, rfl⟩ := Nat.exists_eq_add_of_le (Nat.le_of_not_lt hindex)
        rw [List.getElem?_append_right (by simp), List.length_replicate, Nat.add_sub_cancel_left,
          ih hlength]
        constructor
        · rintro ⟨number, hmark, hle, hlt⟩
          refine ⟨number + 1, hmark, ?_, ?_⟩
          · rw [charsBefore_cons]
            omega
          · rw [charsBefore_cons]
            omega
        · rintro ⟨number, hmark, hle, hlt⟩
          cases number with
          | zero =>
              simp only [charsBefore, List.take_succ_cons, List.take_zero] at hlt
              simp at hlt
          | succ number =>
              rw [charsBefore_cons] at hle hlt
              exact ⟨number, hmark, by omega, by omega⟩

/-- The characters that a keyword covers are those of its taken places. -/
theorem coverage_eq_true_iff (keyword : Keyword) (text : List Char) (index : Nat) :
    (keyword.coverage text)[index]? = some true ↔ keyword.Covers text index := by
  have hflags := getElem?_flags (Reaches.start keyword.words (runs text)) rfl
  have hlength : (flags keyword.words 0 (runs text)).length = (runs text).length :=
    length_flags _ _ _
  rw [coverage]
  constructor
  · intro hmark
    obtain ⟨number, hflag, hle, hlt⟩ := (getElem?_spreadFlags hlength index true).1 hmark
    obtain ⟨_, start, htaken, hstart, hend⟩ := (hflags number).1 hflag
    rw [Nat.zero_add] at hstart hend
    refine ⟨start, htaken, ?_, ?_⟩
    · exact (charsBefore_le_of_le _ hstart).trans hle
    · exact hlt.trans_le (charsBefore_le_of_le _ hend)
  · rintro ⟨start, htaken, hle, hlt⟩
    -- The character has some flag, which is that of a run of the place.
    have hindex : index < (keyword.coverage text).length := by
      have := charsBefore_le_length (runs text) (start + width keyword.words)
      rw [flatten_runs] at this
      rw [length_coverage]
      omega
    obtain ⟨number, hflag, hfirst, hlast⟩ := (getElem?_spreadFlags hlength index _).1
      (List.getElem?_eq_getElem hindex)
    have hstart : start ≤ number := by
      by_contra hless
      have := charsBefore_le_of_le (runs text) (show number + 1 ≤ start by omega)
      omega
    have hend : number < start + width keyword.words := by
      by_contra hmore
      have := charsBefore_le_of_le (runs text) (show start + width keyword.words ≤ number by omega)
      omega
    have hnumber : number < (runs text).length := by
      rw [← hlength]
      exact (List.getElem?_eq_some_iff.1 hflag).1
    have hplace : InPlace keyword.words (runs text) (0 + number) :=
      ⟨start, htaken, by omega, by omega⟩
    exact (getElem?_spreadFlags hlength index true).2
      ⟨number, (hflags number).2 ⟨hnumber, hplace⟩, hfirst, hlast⟩

end Keyword

/-! ### All keywords at once -/

namespace KeywordSet

/-- The characters that a set covers are those of the taken places of its keywords. -/
theorem coverage_eq_true_iff (set : KeywordSet) (text : List Char) (index : Nat) :
    (set.coverage text)[index]? = some true ↔
      ∃ keyword ∈ set.keywords, keyword.Covers text index := by
  obtain ⟨keywords⟩ := set
  induction keywords with
  | nil => simp [coverage, List.getElem?_replicate]
  | cons keyword keywords ih =>
      simp only [List.mem_cons, exists_eq_or_imp, ← ih, ← keyword.coverage_eq_true_iff]
      rw [coverage_mk_cons, List.getElem?_zipWith]
      by_cases hindex : index < text.length
      · have hfirst : index < (keyword.coverage text).length := by simpa using hindex
        have hothers : index < (coverage ⟨keywords⟩ text).length := by simpa using hindex
        rw [List.getElem?_eq_getElem hfirst, List.getElem?_eq_getElem hothers]
        simp
      · have hfirst : (keyword.coverage text).length ≤ index := by simpa using hindex
        have hothers : (coverage ⟨keywords⟩ text).length ≤ index := by simpa using hindex
        rw [List.getElem?_eq_none hfirst, List.getElem?_eq_none hothers]
        simp

/-- Sets with the same keywords cover the same characters, whatever the order and the number of
times in which the keywords are listed. -/
theorem coverage_congr {set other : KeywordSet}
    (h : ∀ keyword, keyword ∈ set.keywords ↔ keyword ∈ other.keywords) (text : List Char) :
    set.coverage text = other.coverage text := by
  apply List.ext_getElem (by simp)
  intro index hset hother
  have hiff : (set.coverage text)[index]? = some true ↔
      (other.coverage text)[index]? = some true := by
    simp only [coverage_eq_true_iff, h]
  rw [List.getElem?_eq_getElem hset, List.getElem?_eq_getElem hother, Option.some.injEq,
    Option.some.injEq] at hiff
  exact Bool.eq_iff_iff.2 hiff

theorem normalize_congr {set other : KeywordSet} (hset : set.WordShaped) (hother : other.WordShaped)
    (h : ∀ keyword, keyword ∈ set.keywords ↔ keyword ∈ other.keywords) (casing : Casing)
    (query : List Char) : set.normalize casing query = other.normalize casing query := by
  rw [normalize_eq hset, normalize_eq hother, marked, marked, coverage_congr h]

/-- What normalizing makes of a character of the collapsed query. -/
theorem getElem?_normalize {set : KeywordSet} (hset : set.WordShaped) (casing : Casing)
    {query : List Char} {index : Nat} {c : Char} (hc : (collapse query)[index]? = some c) :
    ∃ mark, (set.coverage (collapse query))[index]? = some mark ∧
      (set.normalize casing query)[index]? = some (casing.recase (c, mark)) := by
  have hindex : index < (set.coverage (collapse query)).length := by
    rw [length_coverage]
    exact (List.getElem?_eq_some_iff.1 hc).1
  have hmark := List.getElem?_eq_getElem hindex
  have hmarked : (set.marked (collapse query))[index]? =
      some (c, (set.coverage (collapse query))[index]) :=
    List.getElem?_zip_eq_some.2 ⟨hc, hmark⟩
  refine ⟨_, hmark, ?_⟩
  rw [normalize_eq hset, List.getElem?_map, hmarked]
  rfl

end KeywordSet

/-! ### Keywords and their spellings -/

/-- Words without blanks, joined by single spaces, are the words of the text. -/
theorem Text.words_joinWords {texts : List (List Char)} (hne : ∀ text ∈ texts, text ≠ [])
    (hblank : ∀ text ∈ texts, ∀ c ∈ text, isBlank c = false) :
    words (joinWords texts) = texts := by
  induction texts with
  | nil => rfl
  | cons text texts ih =>
      have hrun : ∀ c ∈ text, breaks isBlank (fun _ => false) c = false := by
        intro c hc
        simpa [breaks] using hblank text List.mem_cons_self c hc
      have hrest := ih (fun other hother => hne other (List.mem_cons_of_mem _ hother))
        fun other hother => hblank other (List.mem_cons_of_mem _ hother)
      cases texts with
      | nil =>
          rw [joinWords, List.intercalate_singleton]
          exact divide_eq_singleton (hne text List.mem_cons_self) hrun
      | cons next texts =>
          have hspace : ∀ c ∈ (' ' :: joinWords (next :: texts)).head?,
              breaks isBlank (fun _ => false) c = true := by
            intro c hc
            obtain rfl : ' ' = c := by simpa using hc
            rfl
          rw [joinWords_cons_cons, words,
            divide_run_append (hne text List.mem_cons_self) hrun hspace,
            divide_cons_divides rfl]
          exact congrArg (text :: ·) hrest

/-- A word-shaped keyword can be read off its spelling. -/
theorem Keyword.words_spelling {keyword : Keyword} (h : WordShaped keyword.words) :
    Text.words keyword.spelling = keyword.words := by
  apply words_joinWords h.word_ne_nil
  intro word hword c hc
  apply Bool.eq_false_iff.2
  intro hblank
  have := h.isWordChar hword c hc
  rw [isWordChar_of_isBlank hblank] at this
  exact absurd this (by simp)

theorem KeywordSet.mem_keywords_iff {set : KeywordSet} (h : set.WordShaped) {keyword : Keyword} :
    keyword ∈ set.keywords ↔
      ∃ spelling ∈ set.spellings, keyword = ⟨Text.words spelling⟩ := by
  constructor
  · intro hmem
    refine ⟨keyword.spelling, List.mem_map_of_mem hmem, ?_⟩
    rw [Keyword.words_spelling (h keyword hmem)]
  · rintro ⟨spelling, hmem, rfl⟩
    obtain ⟨keyword, hkeyword, rfl⟩ := List.mem_map.1 hmem
    rw [Keyword.words_spelling (h keyword hkeyword)]
    exact hkeyword

/-- Normalizing is one rewriting of the collapsed query.  The keywords are looked for in the
collapsed query alone, each at its leftmost places that do not overlap; a character of such a place
gets the case of the policy, and every other character stays.  So two sets with the same canonical
spellings have the same effect, in whatever order and however often they list them. -/
theorem normalize_eq_one_shot (set : KeywordSet) (hset : set.isWordShaped = true)
    (casing : Casing) (query : List Char) :
    (set.normalize casing query).length = (collapse query).length ∧
      (∀ index c, (collapse query)[index]? = some c →
        ((∃ keyword ∈ set.keywords, keyword.Covers (collapse query) index) →
          (set.normalize casing query)[index]? = some (casing.letter c)) ∧
        ((¬ ∃ keyword ∈ set.keywords, keyword.Covers (collapse query) index) →
          (set.normalize casing query)[index]? = some c)) ∧
      ∀ other : KeywordSet, other.isWordShaped = true →
        (∀ spelling, spelling ∈ other.spellings ↔ spelling ∈ set.spellings) →
        other.normalize casing query = set.normalize casing query := by
  have hshaped := KeywordSet.wordShaped_of_isWordShaped hset
  refine ⟨?_, ?_, ?_⟩
  · rw [← length_fold, KeywordSet.fold_normalize hshaped, length_fold]
  · intro index c hc
    obtain ⟨mark, hmark, hout⟩ := KeywordSet.getElem?_normalize hshaped casing hc
    rw [← set.coverage_eq_true_iff, hmark, hout]
    cases mark with
    | true => simp [Casing.recase]
    | false => simp [Casing.recase]
  · intro other hother hspellings
    have hshaped' := KeywordSet.wordShaped_of_isWordShaped hother
    apply KeywordSet.normalize_congr hshaped' hshaped
    intro keyword
    simp only [KeywordSet.mem_keywords_iff hshaped', KeywordSet.mem_keywords_iff hshaped,
      hspellings]

/-- The standard keywords from the last to the first, where a longer keyword comes before the
keyword that it ends with. -/
theorem normalize_eq_one_shot_reversed :
    KeywordSet.standard.isWordShaped = true ∧
      KeywordSet.normalize ⟨KeywordSet.standard.keywords.reverse⟩ .lower
          "SELECT a\nFROM b LEFT\tJOIN c".toList =
        KeywordSet.standard.normalize .lower "SELECT a\nFROM b LEFT\tJOIN c".toList := by
  have hset : KeywordSet.standard.isWordShaped = true := by decide +kernel
  have hreversed : (⟨KeywordSet.standard.keywords.reverse⟩ : KeywordSet).isWordShaped = true := by
    decide +kernel
  have hone := normalize_eq_one_shot .standard hset .lower "SELECT a\nFROM b LEFT\tJOIN c".toList
  refine ⟨hset, hone.2.2 _ hreversed ?_⟩
  intro spelling
  simp [KeywordSet.spellings]

end SqlTidy
