/-
Module: SqlTidy.Proofs.RoundTrip
Purpose: Options that are written out as a configuration document come back from it.
Main exports: Text.upperChar_spec, Keyword.wordShaped_ofText, Keyword.ofText_of_fold_eq,
  KeywordSet.ofTexts_of_recased, Options.WellFormed, Options.document, options_of_document
-/
import SqlTidy.Proofs.Configuration
import SqlTidy.Proofs.Outline
import SqlTidy.Proofs.Places

namespace SqlTidy

open Text
open Json (Value CodePoints)

/-!
A document is checked, and then its keywords are read again: divided into words, and each word put
in capitals.  The keywords of a set have gone through the same before, so reading them again has to
change nothing, and it must not matter which case they are written in.  What is needed of the case
tables for that is that a capital spelling has no small ASCII letter in it, and no blank where there
was none.
-/

/-! ### Capital spellings -/

namespace Text

/-- The code points of small ASCII letters, blanks and marks, as ranges. -/
def smallOrStopRanges : List (Nat × Nat) :=
  (0x61, 0x7A) :: stopRanges

theorem mem_smallOrStopRanges {c : Char} (h : isBlank c = true ∨ c.isLower = true) :
    ∃ range ∈ smallOrStopRanges, range.1 ≤ c.toNat ∧ c.toNat ≤ range.2 := by
  rcases h with hblank | hlower
  · have hstop : endsPiece c = true := by simp [breaks, hblank]
    obtain ⟨range, hrange, hbounds⟩ := mem_stopRanges_of_endsPiece hstop
    exact ⟨range, List.mem_cons_of_mem _ hrange, hbounds⟩
  · refine ⟨(0x61, 0x7A), List.mem_cons_self, ?_⟩
    simpa [Char.isLower, UInt32.le_iff_toNat_le] using hlower

/-- The capitals of a run of small letters are apart from all small ASCII letters and blanks. -/
theorem capitalRuns_apart : ∀ run ∈ capitalRuns, ∀ range ∈ smallOrStopRanges,
    0 < range.1 ∧ (run.last + run.shift < range.1 ∨ range.2 < run.first + run.shift) := by
  decide +kernel

theorem capitalSpellings_apart : ∀ entry ∈ capitalSpellings,
    entry.2 ≠ [] ∧ ∀ n ∈ entry.2, ∀ range ∈ smallOrStopRanges,
      0 < range.1 ∧ (n < range.1 ∨ range.2 < n) := by
  decide +kernel

/-- A code point that is in no range is the code point of a character that is neither blank nor a
small ASCII letter. -/
theorem not_blank_ofNat {n : Nat}
    (h : ∀ range ∈ smallOrStopRanges, 0 < range.1 ∧ (n < range.1 ∨ range.2 < n)) :
    isBlank (Char.ofNat n) = false ∧ (Char.ofNat n).isLower = false := by
  have hnone : ¬ (isBlank (Char.ofNat n) = true ∨ (Char.ofNat n).isLower = true) := by
    intro hsome
    obtain ⟨range, hrange, hlow, hhigh⟩ := mem_smallOrStopRanges hsome
    obtain ⟨hpos, hapart⟩ := h range hrange
    rw [Char.toNat_ofNat] at hlow hhigh
    split at hlow <;> split at hhigh <;> omega
  simpa using hnone

theorem isBlank_toUpper (c : Char) : isBlank c.toUpper = isBlank c := by
  rw [← isBlank_toLower, Char.toLower_toUpper_eq_toLower, isBlank_toLower]

/-- The capital spelling of a character that is not blank has characters, and none of them is blank
or a small ASCII letter. -/
theorem upperChar_spec {c : Char} (h : isBlank c = false) :
    upperChar c ≠ [] ∧ ∀ d ∈ upperChar c, isBlank d = false ∧ d.isLower = false := by
  unfold upperChar
  split
  · simp [isBlank_toUpper, h]
  · rename_i hascii
    split
    · rename_i codePoints hlookup
      obtain ⟨before, after, htable, _⟩ := List.lookup_eq_some_iff.1 hlookup
      have hmem : (c.toNat, codePoints) ∈ capitalSpellings := by
        rw [htable]
        exact List.mem_append_right _ List.mem_cons_self
      obtain ⟨hne, hapart⟩ := capitalSpellings_apart _ hmem
      refine ⟨by simpa using hne, fun d hd => ?_⟩
      obtain ⟨n, hn, rfl⟩ := List.mem_map.1 hd
      exact not_blank_ofNat (hapart n hn)
    · refine ⟨List.cons_ne_nil _ _, fun d hd => ?_⟩
      rw [List.mem_singleton.1 hd, CaseRun.apply]
      split
      · rename_i run hrun
        obtain ⟨hmem, hfirst, hlast⟩ := mem_of_find?_covers hrun
        apply not_blank_ofNat
        intro range hrange
        obtain ⟨hpos, hapart⟩ := capitalRuns_apart run hmem range hrange
        omega
      · rw [Char.ofNat_toNat]
        refine ⟨h, Bool.eq_false_iff.2 fun hlower => ?_⟩
        have hbounds := isAlpha_bounds (show c.isAlpha = true by simp [Char.isAlpha, hlower])
        omega

theorem upper_spec {word : List Char} (hne : word ≠ []) (h : ∀ c ∈ word, isBlank c = false) :
    upper word ≠ [] ∧ ∀ d ∈ upper word, isBlank d = false ∧ d.isLower = false := by
  constructor
  · obtain ⟨c, word, rfl⟩ := List.exists_cons_of_ne_nil hne
    intro hnil
    rw [upper, List.flatMap_cons, List.append_eq_nil_iff] at hnil
    exact (upperChar_spec (h c List.mem_cons_self)).1 hnil.1
  · intro d hd
    obtain ⟨c, hc, hd⟩ := List.mem_flatMap.1 hd
    exact (upperChar_spec (h c hc)).2 d hd

/-- A word of a text has characters, and none of them is blank. -/
theorem not_blank_of_mem_words {word text : List Char} (h : word ∈ words text) :
    word ≠ [] ∧ ∀ c ∈ word, isBlank c = false := by
  rcases mem_divide h with ⟨_, _, _, halone⟩ | ⟨_, _, _, hne, hrun, _⟩
  · exact absurd halone (by simp)
  · exact ⟨hne, fun c hc => by simpa [breaks] using hrun c hc⟩

theorem words_fold (text : List Char) : words (fold text) = (words text).map fold :=
  (map_divide Char.toLower isBlank_toLower (fun _ => rfl) text).symm

end Text

/-! ### Reading a keyword again -/

namespace Keyword

/-- A keyword that is spelled with words of letters is word-shaped. -/
theorem wordShaped_ofText {text : List Char} {words : List (List Char)} (hwords : LetterWords words)
    (hspelling : (ofText text).spelling = joinWords words) : WordShaped (ofText text).words := by
  have hupper : ∀ word ∈ (ofText text).words,
      word ≠ [] ∧ ∀ c ∈ word, isBlank c = false ∧ c.isLower = false := by
    intro word hword
    obtain ⟨source, hsource, rfl⟩ := List.mem_map.1 hword
    obtain ⟨hne, hblank⟩ := not_blank_of_mem_words hsource
    exact upper_spec hne hblank
  -- Words without blanks can be told from their spelling, so they are the words of letters.
  have heq : (ofText text).words = words := by
    rw [← words_joinWords (fun word hword => (hupper word hword).1)
        fun word hword c hc => ((hupper word hword).2 c hc).1,
      ← words_joinWords (fun word hword => (hwords.letters word hword).1)
        fun word hword c hc => not_blank_of_isAlpha ((hwords.letters word hword).2 c hc)]
    exact congrArg Text.words hspelling
  refine ⟨heq ▸ hwords.nonempty, fun word hword => (hupper word hword).1, ?_⟩
  intro word hword c hc
  have hlower := ((hupper word hword).2 c hc).2
  have halpha := (hwords.letters word (heq ▸ hword)).2 c hc
  simp only [Char.isAlpha, hlower, Bool.or_false] at halpha
  simp [isCapitalWordChar, halpha]

theorem upper_of_fold_eq {word other : List Char} (hword : ∀ c ∈ word, isCapitalWordChar c = true)
    (h : fold other = fold word) : upper other = word := by
  have hascii : isAscii word = true := by
    rw [isAscii, List.all_eq_true]
    intro c hc
    exact decide_eq_true (lt_bound_of_isWordChar (isWordChar_of_isCapital (hword c hc)))
  have hother : isAscii other = true := by rw [← isAscii_fold, h, isAscii_fold, hascii]
  have hfixed : ∀ c ∈ word, c.toUpper = id c := fun c hc => toUpper_of_isCapital (hword c hc)
  calc upper other
      = upper (fold other) := (upper_fold hother).symm
    _ = upper word := by rw [h, upper_fold hascii]
    _ = word := by rw [upper_eq_map_toUpper hascii, List.map_congr_left hfixed, List.map_id]

theorem map_upper_of_map_fold_eq {known found : List (List Char)}
    (hknown : ∀ word ∈ known, ∀ c ∈ word, isCapitalWordChar c = true)
    (h : found.map fold = known.map fold) : found.map upper = known := by
  induction known generalizing found with
  | nil => simpa using h
  | cons word known ih =>
      obtain ⟨hword, hrest⟩ := List.forall_mem_cons.1 hknown
      cases found with
      | nil => simp at h
      | cons other found =>
          obtain ⟨hother, hfound⟩ := List.cons_eq_cons.1 h
          rw [List.map_cons, upper_of_fold_eq hword hother, ih hrest hfound]

/-- A text that is the spelling of a word-shaped keyword, up to case, is read as that keyword. -/
theorem ofText_of_fold_eq {keyword : Keyword} (hkeyword : WordShaped keyword.words)
    {entry : List Char} (h : fold entry = fold keyword.spelling) : ofText entry = keyword := by
  have hfold : (Text.words entry).map fold = keyword.words.map fold := by
    rw [← words_fold, h, words_fold, words_spelling hkeyword]
  obtain ⟨known⟩ := keyword
  exact congrArg Keyword.mk (map_upper_of_map_fold_eq hkeyword.isCapital hfold)

end Keyword

/-- The texts are the spellings, each in any case. -/
def Recased (entries spellings : List (List Char)) : Prop :=
  List.Forall₂ (fun entry spelling => fold entry = fold spelling) entries spellings

theorem Recased.map_fold {entries spellings : List (List Char)} (h : Recased entries spellings) :
    entries.map fold = spellings.map fold := by
  induction h with
  | nil => rfl
  | cons hhead _ ih => rw [List.map_cons, List.map_cons, hhead, ih]

theorem KeywordSet.ofTexts_of_recased {set : KeywordSet} (hset : set.WordShaped)
    {entries : List (List Char)} (h : Recased entries set.spellings) : ofTexts entries = set := by
  obtain ⟨keywords⟩ := set
  have hkeywords : entries.map Keyword.ofText = keywords := by
    induction keywords generalizing entries with
    | nil =>
        cases h
        rfl
    | cons keyword keywords ih =>
        cases h with
        | cons hhead htail =>
            rw [List.map_cons,
              Keyword.ofText_of_fold_eq (hset keyword List.mem_cons_self) hhead]
            exact congrArg (keyword :: ·) (ih hset.tail htail)
  exact congrArg KeywordSet.mk hkeywords

/-- Texts that are distinct spellings in capitals are distinct in any case. -/
theorem Recased.nodup {set : KeywordSet} (hset : set.WordShaped) {entries : List (List Char)}
    (h : Recased entries set.spellings) (hdistinct : set.spellings.Nodup) : entries.Nodup := by
  have hcapital : set.spellings.map (fun text => (fold text).map Char.toUpper) =
      set.spellings := by
    rw [KeywordSet.spellings, List.map_map]
    apply List.map_congr_left
    intro keyword hkeyword
    have hfold : (fold keyword.spelling).map Char.toUpper = keyword.spelling.map Char.toUpper := by
      simp [fold]
    exact hfold.trans (Keyword.map_toUpper_spelling (hset keyword hkeyword))
  have hmap : entries.map (fun text => (fold text).map Char.toUpper) = set.spellings := by
    rw [← hcapital]
    have hfold := congrArg (List.map (List.map Char.toUpper)) h.map_fold
    simpa [List.map_map, Function.comp_def] using hfold
  rw [← hmap] at hdistinct
  exact List.Nodup.of_map _ hdistinct

/-! ### Checking a keyword again -/

namespace Config

theorem keywordsOf_ofChars (entries : List (List Char)) :
    keywordsOf (.array (entries.map .ofChars)) = .ofTexts entries := by
  simp [keywordsOf, List.filterMap_map, Function.comp_def, Value.ofChars,
    CodePoints.toChars_ofChars]

theorem isLetterWord_of_fold_eq {word other : List Char} (hword : IsLetterWord word)
    (h : fold other = fold word) : IsLetterWord other := by
  refine ⟨?_, fun c hc => ?_⟩
  · rintro rfl
    exact hword.1 (List.map_eq_nil_iff.1 h.symm)
  · have hmem : c.toLower ∈ fold word := h ▸ List.mem_map_of_mem hc
    obtain ⟨d, hd, heq⟩ := List.mem_map.1 hmem
    rw [← Char.isAlpha_toLower_eq_isAlpha, ← heq, Char.isAlpha_toLower_eq_isAlpha]
    exact hword.2 d hd

/-- Words of letters in another case are words of letters. -/
theorem exists_letterWords_of_fold_eq {words : List (List Char)} (hwords : LetterWords words)
    {entry : List Char} (h : fold entry = fold (joinWords words)) :
    ∃ found, LetterWords found ∧ entry = joinWords found := by
  obtain ⟨hne, hletters⟩ := hwords
  induction words generalizing entry with
  | nil => exact absurd rfl hne
  | cons word words ih =>
      obtain ⟨hword, hrest⟩ := List.forall_mem_cons.1 hletters
      cases words with
      | nil =>
          rw [joinWords_singleton] at h
          have hentry : IsLetterWord entry := isLetterWord_of_fold_eq hword h
          exact ⟨[entry], ⟨by simp, by simpa using hentry⟩, (joinWords_singleton entry).symm⟩
      | cons next words =>
          rw [joinWords_cons_cons, fold_append, fold, List.map_eq_append_iff] at h
          obtain ⟨front, back, rfl, hfront, hback⟩ := h
          rw [fold, List.map_cons, List.map_eq_cons_iff] at hback
          obtain ⟨c, later, rfl, hc, hlater⟩ := hback
          obtain rfl : c = ' ' := eq_of_toLower_eq rfl hc.symm
          obtain ⟨found, ⟨hfound, hall⟩, rfl⟩ := ih hlater (by simp) hrest
          obtain ⟨second, found, rfl⟩ := List.exists_cons_of_ne_nil hfound
          refine ⟨front :: second :: found, ⟨by simp, ?_⟩, (joinWords_cons_cons _ _ _).symm⟩
          exact List.forall_mem_cons.2 ⟨isLetterWord_of_fold_eq hword hfront, hall⟩

/-- Whether a text is made of words of letters does not depend on its case. -/
theorem isKeywordText_of_fold_eq {words : List (List Char)} (hwords : LetterWords words)
    {entry : List Char} (h : fold entry = fold (joinWords words)) :
    IsKeywordText (.ofChars entry) := by
  obtain ⟨found, hfound, rfl⟩ := exists_letterWords_of_fold_eq hwords h
  exact ⟨found, hfound, Or.inl rfl⟩

end Config

/-! ### Options and their document -/

namespace Options

/-- The canonical spellings of the keywords. -/
def spellings (options : Options) : List (List Char) :=
  (options.keywords.map KeywordSet.spellings).getD []

/-- Options that a document can spell out: the indent size is a natural number, the casing is the
name of a policy, and the keywords are distinct and made of words of letters. -/
structure WellFormed (options : Options) : Prop where
  indentSize : ∃ size : Int, 0 ≤ size ∧ options.indentSize = .int size
  keywordCase : Config.IsCasing options.keywordCase
  keywords : ∃ texts, options.keywords = some (.ofTexts texts)
  nonempty : options.spellings ≠ []
  distinct : options.spellings.Nodup
  letters : ∀ spelling ∈ options.spellings, ∃ words, LetterWords words ∧ spelling = joinWords words

/-- The document that spells options out, with the keywords as they are written in it. -/
def document (options : Options) (entries : List (List Char)) : Value :=
  .record [("indentSize", options.indentSize), ("keywordCase", options.keywordCase),
    ("keywords", .array (entries.map .ofChars))]

/-- The keywords of well-formed options are word-shaped. -/
theorem WellFormed.exists_wordShaped {options : Options} (h : options.WellFormed) :
    ∃ set : KeywordSet, options.keywords = some set ∧ options.spellings = set.spellings ∧
      set.WordShaped := by
  obtain ⟨texts, htexts⟩ := h.keywords
  have hspellings : options.spellings = (KeywordSet.ofTexts texts).spellings := by
    rw [spellings, htexts]
    rfl
  refine ⟨.ofTexts texts, htexts, hspellings, fun keyword hkeyword => ?_⟩
  obtain ⟨text, _, rfl⟩ := List.mem_map.1 hkeyword
  have hmem : (Keyword.ofText text).spelling ∈ options.spellings := by
    rw [hspellings]
    exact List.mem_map_of_mem hkeyword
  obtain ⟨words, hwords, hspelling⟩ := h.letters _ hmem
  exact Keyword.wordShaped_ofText hwords hspelling

theorem WellFormed.isKeywordList {options : Options} (h : options.WellFormed)
    {entries : List (List Char)} (hentries : Recased entries options.spellings) :
    Config.IsKeywordList (.array (entries.map .ofChars)) := by
  obtain ⟨set, _, hspellings, hset⟩ := h.exists_wordShaped
  have hlength : entries.length = options.spellings.length := hentries.length_eq
  have hnodup : entries.Nodup := (hspellings ▸ hentries).nodup hset (hspellings ▸ h.distinct)
  have hinjective : Function.Injective CodePoints.ofChars := by
    intro text other heq
    rw [← CodePoints.toChars_ofChars text, heq, CodePoints.toChars_ofChars]
  refine ⟨entries.map .ofChars, by simp [Value.ofChars, Function.comp_def], ?_,
    hnodup.map hinjective, ?_⟩
  · have hne := List.length_pos_iff.2 h.nonempty
    rw [← hlength] at hne
    simpa using List.length_pos_iff.1 hne
  · intro text htext
    obtain ⟨entry, hentry, rfl⟩ := List.mem_map.1 htext
    have hfold : fold entry ∈ options.spellings.map fold :=
      hentries.map_fold ▸ List.mem_map_of_mem hentry
    obtain ⟨spelling, hspelling, heq⟩ := List.mem_map.1 hfold
    obtain ⟨words, hwords, rfl⟩ := h.letters spelling hspelling
    exact Config.isKeywordText_of_fold_eq hwords heq.symm

theorem WellFormed.violations_document {options : Options} (h : options.WellFormed)
    {entries : List (List Char)} (hentries : Recased entries options.spellings) :
    Config.violations (options.document entries) = .ok [] := by
  refine (Config.violations_eq_nil_iff _).2 fun field hfield => ?_
  cases hfield with
  | root hmem hname =>
      simp only [List.map_cons, List.map_nil, List.mem_cons, List.not_mem_nil, or_false,
        Prod.mk.injEq] at hmem
      rcases hmem with ⟨rfl, _⟩ | ⟨rfl, _⟩ | ⟨rfl, _⟩
      · exact hname "indentSize" (by decide) rfl
      · exact hname "keywordCase" (by decide) rfl
      · exact hname "keywords" (by decide) rfl
  | indentSize hvalue hcount =>
      obtain rfl := Option.some.inj hvalue
      obtain ⟨size, hsize, heq⟩ := h.indentSize
      refine hcount ⟨size.toNat, ?_⟩
      rw [heq, Value.rat?]
      exact congrArg some (by exact_mod_cast (Int.toNat_of_nonneg hsize).symm)
  | keywordCase hvalue hcasing =>
      obtain rfl := Option.some.inj hvalue
      exact hcasing h.keywordCase
  | keywords hvalue hlist =>
      obtain rfl := Option.some.inj hvalue
      exact hlist (h.isKeywordList hentries)

end Options

/-- Well-formed options come back from their document, whatever the base is, and also if the
keywords are written in another case. -/
theorem options_of_document (options : Options) (h : options.WellFormed) (base : Options) :
    Config.options (options.document options.spellings) base = .ok options ∧
      ∀ entries, Recased entries options.spellings →
        Config.options (options.document entries) base = .ok options := by
  have hrecased : ∀ entries, Recased entries options.spellings →
      Config.options (options.document entries) base = .ok options := by
    intro entries hentries
    obtain ⟨set, hkeywords, hspellings, hset⟩ := h.exists_wordShaped
    have hread : Config.keywordsOf (.array (entries.map .ofChars)) = set := by
      rw [Config.keywordsOf_ofChars]
      exact KeywordSet.ofTexts_of_recased hset (hspellings ▸ hentries)
    have hoptions := Config.options_object (h.violations_document hentries) base
    refine hoptions.trans (congrArg Except.ok ?_)
    obtain ⟨indentSize, keywordCase, keywords⟩ := options
    exact congrArg (Options.mk indentSize keywordCase)
      ((congrArg some hread).trans hkeywords.symm)
  exact ⟨hrecased _ (List.forall₂_same.2 fun _ _ => rfl), hrecased⟩

/-- No indentation, and two keywords that are given and written in several cases, on top of a base
that says otherwise. -/
theorem options_of_document_recased :
    Options.WellFormed ⟨.int 0, .ofString "keep",
        some (.ofTexts ["order  By".toList, "in".toList])⟩ ∧
      Config.options (Value.record [("indentSize", .int 0), ("keywordCase", .ofString "keep"),
        ("keywords", .array [.ofString "ORDER by", .ofString "iN"])])
        ⟨.int 4, .null, none⟩ =
      .ok ⟨.int 0, .ofString "keep", some (.ofTexts ["order  By".toList, "in".toList])⟩ := by
  have hspellings : Options.spellings ⟨.int 0, .ofString "keep",
      some (.ofTexts ["order  By".toList, "in".toList])⟩ =
        ["ORDER BY".toList, "IN".toList] := by
    decide +kernel
  have hformed : Options.WellFormed ⟨.int 0, .ofString "keep",
      some (.ofTexts ["order  By".toList, "in".toList])⟩ := by
    refine ⟨⟨0, le_rfl, rfl⟩, ⟨"keep", by simp, rfl⟩, ⟨_, rfl⟩, ?_, ?_, ?_⟩ <;>
      rw [hspellings]
    · simp
    · decide
    · intro spelling hspelling
      simp only [List.mem_cons, List.not_mem_nil, or_false] at hspelling
      rcases hspelling with rfl | rfl
      · exact ⟨["ORDER".toList, "BY".toList], ⟨by simp, by simp [IsLetterWord]⟩, rfl⟩
      · exact ⟨["IN".toList], ⟨by simp, by simp [IsLetterWord]⟩, rfl⟩
  have hrecased : Recased ["ORDER by".toList, "iN".toList] ["ORDER BY".toList, "IN".toList] :=
    .cons (by decide) (.cons (by decide) .nil)
  rw [← hspellings] at hrecased
  have hdocument : Options.document ⟨.int 0, .ofString "keep",
      some (.ofTexts ["order  By".toList, "in".toList])⟩ ["ORDER by".toList, "iN".toList] =
        Value.record [("indentSize", .int 0), ("keywordCase", .ofString "keep"),
          ("keywords", .array [.ofString "ORDER by", .ofString "iN"])] := rfl
  rw [← hdocument]
  exact ⟨hformed, (options_of_document _ hformed ⟨.int 4, .null, none⟩).2 _ hrecased⟩

end SqlTidy
