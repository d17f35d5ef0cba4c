/-
Module: SqlTidy.Proofs.Fields
Purpose: What the fields of a configuration must be, and that the schema of each finds out whether
  they are, whatever validator it is used with.
Main exports: Config.IsCount, Config.IsCasing, Config.IsKeywordText, Config.IsKeywordList,
  Config.found_keywordPattern_iff, Report.Judges, Config.judges_indentSizeSchema,
  Config.judges_keywordCaseSchema, Config.judges_keywordsSchema
-/
import SqlTidy.Config.Document
import SqlTidy.Proofs.Schemas
import SqlTidy.Proofs.Spacing

namespace SqlTidy

open Text
open Json (Value CodePoints Violation Report Validator)
open Json.Schema (SimpleType Below)

/-!
The schema asks several things of each field, and a keyword is silent about values of a kind that it
does not look at.  So what a field must be is said here at once for values of every kind, and the
keywords of its schema together are compared with that: where one of them is silent, another one is
not.  Only the rules for the keywords are used, so this holds for every validator that keeps to
them.
-/

/-! ### What the fields must be -/

/-- A word of ASCII letters, at least one. -/
def Text.IsLetterWord (word : List Char) : Prop :=
  word ≠ [] ∧ ∀ c ∈ word, c.isAlpha = true

/-- Words of ASCII letters, at least one. -/
structure Text.LetterWords (words : List (List Char)) : Prop where
  nonempty : words ≠ []
  letters : ∀ word ∈ words, IsLetterWord word

namespace Config

/-- A number, of any kind, that is a natural one. -/
def IsCount (value : Value) : Prop :=
  ∃ n : ℕ, value.rat? = some (n : ℚ)

/-- The name of a policy. -/
def IsCasing (value : Value) : Prop :=
  ∃ name ∈ ["upper", "lower", "keep"], value = .ofString name

/-- Words of ASCII letters with single spaces between them, and perhaps a line feed after them. -/
def IsKeywordText (text : CodePoints) : Prop :=
  ∃ words, LetterWords words ∧
    (text = .ofChars (joinWords words) ∨ text = .ofChars (joinWords words ++ ['\n']))

/-- A string that is a keyword. -/
def IsKeyword (value : Value) : Prop :=
  ∃ text, value = .string text ∧ IsKeywordText text

/-- An array of distinct keywords, at least one. -/
def IsKeywordList (value : Value) : Prop :=
  ∃ texts : List CodePoints, value = .array (texts.map .string) ∧ texts ≠ [] ∧ texts.Nodup ∧
    ∀ text ∈ texts, IsKeywordText text

/-! ### Numbers and names -/

/-- The two rules for the indent size together ask for a natural number. -/
theorem isCount_iff (value : Value) :
    IsCount value ↔ SimpleType.integer.Has value ∧ ¬ Below 0 value := by
  constructor
  · rintro ⟨n, hn⟩
    refine ⟨⟨n, by simpa using hn⟩, ?_⟩
    rintro (⟨q, hq, hnegative⟩ | rfl)
    · rw [hn, Option.some.injEq] at hq
      rw [← hq] at hnegative
      exact absurd hnegative (by simp)
    · simp [Value.rat?, Binary64.rat?] at hn
  · rintro ⟨⟨n, hn⟩, hbelow⟩
    have hnonneg : 0 ≤ n := by
      by_contra hnegative
      exact hbelow (Or.inl ⟨n, hn, by exact_mod_cast not_le.1 hnegative⟩)
    obtain ⟨k, rfl⟩ := Int.eq_ofNat_of_zero_le hnonneg
    exact ⟨k, by simpa using hn⟩

theorem isCasing_iff (value : Value) :
    IsCasing value ↔
      SimpleType.string.Has value ∧ ∃ text ∈ Casing.names, value = .ofString text := by
  constructor
  · rintro ⟨name, hname, rfl⟩
    exact ⟨⟨_, rfl⟩, name, hname, rfl⟩
  · exact And.right

/-! ### Keywords -/

/-- The pattern for a letter. -/
def letterPattern : Pattern :=
  .oneOf [(0x41, 0x5A), (0x61, 0x7A)]

/-- The pattern for a word. -/
def wordPattern : Pattern :=
  .seq letterPattern (.many letterPattern)

/-- The pattern for a word that is not the first one. -/
def laterWordPattern : Pattern :=
  .seq (.oneOf [(0x20, 0x20)]) (.seq wordPattern .empty)

/-- The pattern for a keyword. -/
def keywordPattern : Pattern :=
  .seq .start (.seq wordPattern (.seq (.many laterWordPattern) (.seq .finish .empty)))

theorem parse?_keywordPattern :
    Pattern.parse? "^[A-Za-z]+( [A-Za-z]+)*$".toList = some keywordPattern := by
  decide +kernel

section Words

variable {before part after : List Nat}

theorem fits_letterPattern_iff :
    letterPattern.Fits before part after ↔ ∃ c : Char, c.isAlpha = true ∧ part = [c.toNat] := by
  have hletter : ∀ c : Char, c.isAlpha = true ↔
      (0x41 ≤ c.toNat ∧ c.toNat ≤ 0x5A) ∨ (0x61 ≤ c.toNat ∧ c.toNat ≤ 0x7A) := by
    intro c
    simp [Char.isAlpha, Char.isUpper, Char.isLower, UInt32.le_iff_toNat_le]
  rw [letterPattern, Pattern.fits_oneOf_iff]
  simp only [List.mem_cons, List.not_mem_nil, or_false, exists_eq_or_imp, exists_eq_left, hletter]
  constructor
  · rintro ⟨n, rfl, hn⟩
    have hvalid : n.isValidChar := Or.inl (by omega)
    have hnat : (Char.ofNat n).toNat = n := by simp [Char.toNat_ofNat, hvalid]
    exact ⟨Char.ofNat n, by rw [hnat]; exact hn, by rw [hnat]⟩
  · rintro ⟨c, hc, rfl⟩
    exact ⟨c.toNat, rfl, hc⟩

theorem fits_wordPattern_iff :
    wordPattern.Fits before part after ↔
      ∃ word, IsLetterWord word ∧ part = word.map Char.toNat := by
  have hspell : ∀ word : List Char, word.flatMap (fun c => [c.toNat]) = word.map Char.toNat :=
    fun word => (List.map_eq_flatMap).symm
  simp only [wordPattern, Pattern.fits_seq_iff, fits_letterPattern_iff,
    Pattern.fits_many_iff fun _ _ _ => fits_letterPattern_iff, hspell]
  constructor
  · rintro ⟨_, _, rfl, ⟨c, hc, rfl⟩, word, hword, rfl⟩
    exact ⟨c :: word, ⟨List.cons_ne_nil c word, List.forall_mem_cons.2 ⟨hc, hword⟩⟩, rfl⟩
  · rintro ⟨word, ⟨hne, hword⟩, rfl⟩
    obtain ⟨c, word, rfl⟩ := List.exists_cons_of_ne_nil hne
    obtain ⟨hc, hword⟩ := List.forall_mem_cons.1 hword
    exact ⟨_, _, rfl, ⟨c, hc, rfl⟩, word, hword, rfl⟩

theorem fits_laterWordPattern_iff :
    laterWordPattern.Fits before part after ↔
      ∃ word, IsLetterWord word ∧ part = (' ' :: word).map Char.toNat := by
  simp only [laterWordPattern, Pattern.fits_seq_iff, Pattern.fits_oneOf_iff,
    fits_wordPattern_iff, Pattern.fits_empty_iff]
  constructor
  · rintro ⟨_, _, rfl, ⟨n, rfl, range, hrange, hn⟩, _, _, rfl, ⟨word, hword, rfl⟩, rfl⟩
    obtain rfl := List.mem_singleton.1 hrange
    obtain rfl : n = 0x20 := le_antisymm hn.2 hn.1
    exact ⟨word, hword, by simp⟩
  · rintro ⟨word, hword, rfl⟩
    exact ⟨[0x20], _, rfl, ⟨0x20, rfl, _, List.mem_singleton.2 rfl, le_rfl, le_rfl⟩,
      _, [], (List.append_nil _).symm, ⟨word, hword, rfl⟩, rfl⟩

theorem joinWords_cons (word : List Char) (words : List (List Char)) :
    joinWords (word :: words) = word ++ words.flatMap (' ' :: ·) := by
  induction words generalizing word with
  | nil => simp [joinWords]
  | cons next words ih =>
      rw [joinWords_cons_cons, ih]
      simp

theorem fits_keywordPattern_iff :
    keywordPattern.Fits before part after ↔
      before = [] ∧ (after = [] ∨ after = [0xA]) ∧
        ∃ words, LetterWords words ∧ part = (joinWords words).map Char.toNat := by
  simp only [keywordPattern, Pattern.fits_seq_iff, Pattern.fits_start_iff, fits_wordPattern_iff,
    Pattern.fits_many_iff fun _ _ _ => fits_laterWordPattern_iff, Pattern.fits_finish_iff,
    Pattern.fits_empty_iff]
  constructor
  · rintro ⟨_, _, rfl, ⟨rfl, rfl⟩, _, _, rfl, ⟨word, hword, rfl⟩, _, _, rfl,
      ⟨words, hwords, rfl⟩, _, _, rfl, ⟨rfl, hend⟩, rfl⟩
    refine ⟨rfl, by simpa using hend, word :: words, ⟨by simp, ?_⟩, ?_⟩
    · exact List.forall_mem_cons.2 ⟨hword, hwords⟩
    · rw [joinWords_cons, List.map_append, List.map_flatMap]
      simp
  · rintro ⟨rfl, hend, words, ⟨hne, hwords⟩, rfl⟩
    obtain ⟨word, words, rfl⟩ := List.exists_cons_of_ne_nil hne
    obtain ⟨hword, hwords⟩ := List.forall_mem_cons.1 hwords
    rw [joinWords_cons, List.map_append, List.map_flatMap]
    exact ⟨[], _, rfl, ⟨rfl, rfl⟩, _, _, rfl, ⟨word, hword, rfl⟩, _, [],
      (List.append_nil _).symm, ⟨words, hwords, rfl⟩, [], [], rfl, ⟨rfl, by simpa using hend⟩, rfl⟩

end Words

theorem map_val_ofChars (text : List Char) :
    (CodePoints.ofChars text).map Fin.val = text.map Char.toNat := by
  simp [CodePoints.ofChars, Json.CodePoint.ofChar, Function.comp_def]

theorem eq_ofChars_iff (text : CodePoints) (chars : List Char) :
    text = .ofChars chars ↔ text.map Fin.val = chars.map Char.toNat := by
  rw [← map_val_ofChars]
  exact (List.map_injective_iff.2 Fin.val_injective).eq_iff.symm

/-- The pattern for keywords is found in words of letters, also if a line feed comes after them. -/
theorem found_keywordPattern_iff (text : CodePoints) :
    keywordPattern.Found (text.map Fin.val) ↔ IsKeywordText text := by
  simp only [Pattern.Found, fits_keywordPattern_iff, IsKeywordText, eq_ofChars_iff,
    List.map_append]
  constructor
  · rintro ⟨_, _, after, htext, rfl, rfl | rfl, words, hwords, rfl⟩
    · exact ⟨words, hwords, Or.inl (by simpa using htext)⟩
    · exact ⟨words, hwords, Or.inr htext⟩
  · rintro ⟨words, hwords, htext | htext⟩
    · exact ⟨[], _, [], by simpa using htext, rfl, Or.inl rfl, words, hwords, rfl⟩
    · exact ⟨[], _, [0xA], htext, rfl, Or.inr rfl, words, hwords, rfl⟩

theorem isKeyword_iff (value : Value) :
    IsKeyword value ↔ SimpleType.string.Has value ∧
      ∀ text, value = .string text → keywordPattern.Found (text.map Fin.val) := by
  simp only [found_keywordPattern_iff]
  constructor
  · rintro ⟨text, rfl, hword⟩
    refine ⟨⟨text, rfl⟩, ?_⟩
    rintro _ ⟨⟩
    exact hword
  · rintro ⟨⟨text, htext⟩, hword⟩
    exact ⟨text, htext, hword text htext⟩

/-- The rules for the list, where only texts have to be distinct. -/
theorem isKeywordList_iff {value : Value} {distinct : Prop}
    (hdistinct : ∀ texts : List CodePoints, value = .array (texts.map .string) →
      (distinct ↔ texts.Nodup)) :
    IsKeywordList value ↔ SimpleType.array.Has value ∧
      (∀ items, value = .array items → 1 ≤ items.length) ∧ distinct ∧
        ∀ items, value = .array items → ∀ item ∈ items, IsKeyword item := by
  constructor
  · rintro ⟨texts, rfl, hne, hnodup, htexts⟩
    refine ⟨⟨_, rfl⟩, ?_, (hdistinct texts rfl).2 hnodup, ?_⟩
    · rintro _ ⟨⟩
      rw [List.length_map]
      exact List.length_pos_of_ne_nil hne
    · rintro _ ⟨⟩
      intro item hitem
      obtain ⟨text, htext, rfl⟩ := List.mem_map.1 hitem
      exact ⟨text, rfl, htexts text htext⟩
  · rintro ⟨⟨items, rfl⟩, hlength, hnodup, hitems⟩
    have htexts : items ∈ Set.range (List.map Value.string) := by
      rw [Set.range_list_map]
      intro item hitem
      obtain ⟨text, rfl, _⟩ := hitems _ rfl item hitem
      exact ⟨text, rfl⟩
    obtain ⟨texts, rfl⟩ := htexts
    refine ⟨texts, rfl, ?_, (hdistinct texts rfl).1 hnodup, ?_⟩
    · rintro rfl
      simpa using hlength _ rfl
    · intro text htext
      obtain ⟨_, ⟨⟩, hword⟩ := hitems _ rfl _ (List.mem_map_of_mem htext)
      exact hword

end Config

/-! ### What the parts of a schema find -/

namespace Json.Report

/-- The report tells whether a value is good.  If it is not, there are violations at some of the
places, unless something has to be shown that cannot be. -/
structure Judges (report : Report) (good shown : Prop) (places : List String → Prop) : Prop where
  silent : good → report = .ok []
  violated : ¬ good → shown → ∃ found, report = .ok found ∧ found ≠ [] ∧
    ∀ violation ∈ found, places violation.place
  failed : ¬ good → ¬ shown → report = .error .longInteger

section

variable {report : Report} {good shown : Prop} {places : List String → Prop}

/-- The place of a value itself. -/
def Here (place : List String) : Prop :=
  place = []

/-- The place of a value itself or of an item of it. -/
def HereOrItem (place : List String) : Prop :=
  place = [] ∨ ∃ index : Nat, place = [toString index]

theorem Asserts.judges {value : Value} (h : report.Asserts value good) (hplaces : places []) :
    report.Judges good value.Showable places where
  silent := h.silent
  violated := by
    intro hbad hshown
    obtain ⟨message, hreport⟩ := h.violated hbad hshown
    exact ⟨_, hreport, by simp, by simpa using hplaces⟩
  failed := h.failed

theorem judges_silent (h : report = .ok []) (hgood : good) : report.Judges good shown places :=
  ⟨fun _ => h, fun hbad => absurd hgood hbad, fun hbad => absurd hgood hbad⟩

theorem Judges.congr (h : report.Judges good shown places) {good' shown' : Prop}
    (hgood : good ↔ good') (hshown : ¬ good → (shown ↔ shown')) :
    report.Judges good' shown' places where
  silent := fun hyes => h.silent (hgood.2 hyes)
  violated := fun hno hyes =>
    h.violated (mt hgood.1 hno) ((hshown (mt hgood.1 hno)).2 hyes)
  failed := fun hno hnot => h.failed (mt hgood.1 hno) (mt (hshown (mt hgood.1 hno)).1 hnot)

theorem Judges.within (h : report.Judges good shown places) {name : String}
    {further : List String → Prop} (hplaces : ∀ place, places place → further (name :: place)) :
    (report.within name).Judges good shown further where
  silent := by
    intro hgood
    rw [h.silent hgood]
    rfl
  violated := by
    intro hbad hshown
    obtain ⟨found, hreport, hne, hfound⟩ := h.violated hbad hshown
    refine ⟨found.map (Violation.within name), by rw [hreport]; rfl, by simpa using hne, ?_⟩
    intro violation hviolation
    obtain ⟨inner, hinner, rfl⟩ := List.mem_map.1 hviolation
    exact hplaces inner.place (hfound inner hinner)
  failed := by
    intro hbad hshown
    rw [h.failed hbad hshown]
    rfl

theorem collect_cons_ok (found : List Violation) (reports : List Report) :
    collect (.ok found :: reports) = (collect reports).map (found ++ ·) := by
  rw [collect]
  cases collect reports <;> rfl

theorem collect_cons_nil (reports : List Report) :
    collect (.ok [] :: reports) = collect reports := by
  rw [collect_cons_ok]
  cases collect reports <;> rfl

theorem collect_cons_silent {reports : List Report} (h : collect reports = .ok [])
    (report : Report) : collect (report :: reports) = report := by
  cases report with
  | error error => rfl
  | ok found =>
      rw [collect_cons_ok, h]
      simp [Except.map]

theorem collect_cons_error (error : DisplayError) (reports : List Report) :
    collect (.error error :: reports) = .error error :=
  rfl

/-- Two reports one after the other, each with its own conditions. -/
theorem Judges.cons {reports : List Report} {good' shown' : Prop}
    (h : report.Judges good shown places) (h' : (collect reports).Judges good' shown' places) :
    (collect (report :: reports)).Judges (good ∧ good')
      ((¬ good → shown) ∧ (¬ good' → shown')) places where
  silent := by
    rintro ⟨hgood, hgood'⟩
    rw [h.silent hgood, collect_cons_ok, h'.silent hgood']
    rfl
  violated := by
    rintro hbad ⟨hshown, hshown'⟩
    by_cases hgood : good
    · have hbad' : ¬ good' := fun hgood' => hbad ⟨hgood, hgood'⟩
      obtain ⟨found, hreports, hne, hfound⟩ := h'.violated hbad' (hshown' hbad')
      exact ⟨found, by rw [h.silent hgood, collect_cons_ok, hreports]; rfl, hne, hfound⟩
    · obtain ⟨found, hreport, hne, hfound⟩ := h.violated hgood (hshown hgood)
      by_cases hgood' : good'
      · exact ⟨found, by rw [hreport, collect_cons_ok, h'.silent hgood']; simp [Except.map], hne,
          hfound⟩
      · obtain ⟨others, hreports, _, hothers⟩ := h'.violated hgood' (hshown' hgood')
        refine ⟨found ++ others, by rw [hreport, collect_cons_ok, hreports]; rfl, by simp [hne], ?_⟩
        exact fun violation hviolation => (List.mem_append.1 hviolation).elim
          (hfound violation) (hothers violation)
  failed := by
    intro hbad hshown
    by_cases hgood : good
    · have hgood' : ¬ good' := fun hgood' => hbad ⟨hgood, hgood'⟩
      have hshown' : ¬ shown' := fun hyes => hshown ⟨fun hno => absurd hgood hno, fun _ => hyes⟩
      rw [h.silent hgood, collect_cons_ok, h'.failed hgood' hshown']
      rfl
    · by_cases hfirst : shown
      · obtain ⟨found, hreport, _, _⟩ := h.violated hgood hfirst
        have hrest : ¬ (¬ good' → shown') := fun hyes => hshown ⟨fun _ => hfirst, hyes⟩
        rw [Classical.not_imp] at hrest
        rw [hreport, collect_cons_ok, h'.failed hrest.1 hrest.2]
        rfl
      · rw [h.failed hgood hfirst, collect_cons_error]

/-- Reports on one value. -/
theorem Judges.cons_same {reports : List Report} {good' : Prop}
    (h : report.Judges good shown places) (h' : (collect reports).Judges good' shown places) :
    (collect (report :: reports)).Judges (good ∧ good') shown places := by
  refine (h.cons h').congr Iff.rfl fun hbad =>
    ⟨?_, fun hshown => ⟨fun _ => hshown, fun _ => hshown⟩⟩
  rintro ⟨hfirst, hrest⟩
  by_cases hgood : good
  · exact hrest fun hgood' => hbad ⟨hgood, hgood'⟩
  · exact hfirst hgood

/-- A report before others that find nothing. -/
theorem Judges.cons_silent {reports : List Report} (h : report.Judges good shown places)
    (hreports : collect reports = .ok []) :
    (collect (report :: reports)).Judges good shown places := by
  rw [collect_cons_silent hreports]
  exact h

/-- Reports on the parts of a value. -/
theorem judges_collect {ι : Type} {items : List ι} {report : ι → Report} {good shown : ι → Prop}
    (h : ∀ item ∈ items, (report item).Judges (good item) (shown item) places) :
    (collect (items.map report)).Judges (∀ item ∈ items, good item)
      (∀ item ∈ items, ¬ good item → shown item) places := by
  induction items with
  | nil => exact judges_silent rfl (by simp)
  | cons item items ih =>
      obtain ⟨hitem, hitems⟩ := List.forall_mem_cons.1 h
      refine (hitem.cons (ih hitems)).congr List.forall_mem_cons.symm fun hbad => ?_
      rw [List.forall_mem_cons]
      refine and_congr_right fun _ => ?_
      constructor
      · intro hrest
        by_cases hgood : ∀ other ∈ items, good other
        · exact fun other hother hno => absurd (hgood other hother) hno
        · exact hrest hgood
      · exact fun hrest _ => hrest

end

end Json.Report

namespace Config

section Parts

variable {validator : Validator} (hlawful : validator.Lawful) (value : Value)
include hlawful

theorem judges_indentSizeSchema :
    (validator.check indentSizeSchema value).Judges (IsCount value) value.Showable Report.Here := by
  have hpositive : ∀ limit, 0 < Nat.pow 10 limit := fun limit => Nat.pow_pos (by decide)
  have hzero : Value.Showable (.int 0) := (Value.showable_int_iff 0).2 (hpositive _)
  have htype : (validator.keyword "type" (.ofString "integer") indentSizeSchema value).Judges
      (SimpleType.integer.Has value) value.Showable Report.Here :=
    (hlawful.type .integer _ value).judges rfl
  have hminimum : (validator.keyword "minimum" (.int 0) indentSizeSchema value).Judges
      (¬ Below 0 value) value.Showable Report.Here :=
    (hlawful.minimum 0 _ value hzero).judges rfl
  have hdefault : Report.collect [validator.keyword "default" (.int 2) indentSizeSchema value] =
      .ok [] := by
    rw [hlawful.annotation "default" (by decide)]
    rfl
  rw [isCount_iff, indentSizeSchema, hlawful.check]
  exact htype.cons_same (hminimum.cons_silent hdefault)

theorem judges_keywordCaseSchema :
    (validator.check keywordCaseSchema value).Judges (IsCasing value) value.Showable
      Report.Here := by
  have htype : (validator.keyword "type" (.ofString "string") keywordCaseSchema value).Judges
      (SimpleType.string.Has value) value.Showable Report.Here :=
    (hlawful.type .string _ value).judges rfl
  have henum : (validator.keyword "enum" (.array (Casing.names.map .ofString)) keywordCaseSchema
      value).Judges (∃ text ∈ Casing.names, value = .ofString text) value.Showable Report.Here :=
    (hlawful.enum Casing.names _ value).judges rfl
  have hdefault : Report.collect [validator.keyword "default" (.ofString "upper")
      keywordCaseSchema value] = .ok [] := by
    rw [hlawful.annotation "default" (by decide)]
    rfl
  rw [isCasing_iff, keywordCaseSchema, hlawful.check]
  exact htype.cons_same (henum.cons_silent hdefault)

theorem judges_keywordSchema :
    (validator.check keywordSchema value).Judges (IsKeyword value) value.Showable Report.Here := by
  have htype : (validator.keyword "type" (.ofString "string") keywordSchema value).Judges
      (SimpleType.string.Has value) value.Showable Report.Here :=
    (hlawful.type .string _ value).judges rfl
  have hpattern : (validator.keyword "pattern" (.ofString "^[A-Za-z]+( [A-Za-z]+)*$")
      keywordSchema value).Judges
      (∀ text, value = .string text → keywordPattern.Found (text.map Fin.val)) value.Showable
      Report.Here :=
    (hlawful.pattern _ _ parse?_keywordPattern _ value).judges rfl
  rw [isKeyword_iff, keywordSchema, hlawful.check]
  exact htype.cons_same (hpattern.cons_silent rfl)

/-- The items are looked at one by one.  Those that pass are texts, so if what has to be shown of
the others can be shown, the whole list can. -/
theorem judges_items :
    (validator.keyword "items" keywordSchema keywordsSchema value).Judges
      (∀ items, value = .array items → ∀ item ∈ items, IsKeyword item) value.Showable
      Report.HereOrItem := by
  by_cases harray : ∃ items, value = .array items
  · obtain ⟨items, rfl⟩ := harray
    have hkeyword : validator.keyword "items" keywordSchema keywordsSchema (.array items) =
        .collect (items.zipIdx.map fun item =>
          (validator.check keywordSchema item.1).within (toString item.2)) := by
      rw [keywordsSchema, keywordSchema, hlawful.items _ _ items rfl, List.mapIdx_eq_zipIdx_map]
    have hitem : ∀ item ∈ items.zipIdx,
        ((validator.check keywordSchema item.1).within (toString item.2)).Judges
          (IsKeyword item.1) item.1.Showable Report.HereOrItem := by
      intro item _
      refine (judges_keywordSchema hlawful item.1).within ?_
      rintro _ ⟨⟩
      exact Or.inr ⟨item.2, rfl⟩
    have hzip : ∀ p : Value → Prop, (∀ item ∈ items.zipIdx, p item.1) ↔ ∀ item ∈ items, p item := by
      intro p
      rw [← List.forall_mem_map, List.zipIdx_map_fst]
    rw [hkeyword]
    refine (Report.judges_collect hitem).congr ?_ fun _ => ?_
    · rw [hzip IsKeyword]
      simp
    · rw [hzip fun item => ¬ IsKeyword item → item.Showable, Value.showable_array_iff]
      refine forall₂_congr fun item _ => ⟨fun hshown => ?_, fun hshown _ => hshown⟩
      by_cases htext : IsKeyword item
      · obtain ⟨text, rfl, _⟩ := htext
        exact Value.showable_string text
      · exact hshown htext
  · have hnone : ∀ items, value ≠ .array items := not_exists.1 harray
    exact Report.judges_silent ((hlawful.apart _ _ value).2 hnone) fun items hitems =>
      absurd hitems (hnone items)

theorem judges_keywordsSchema :
    (validator.check keywordsSchema value).Judges (IsKeywordList value) value.Showable
      Report.HereOrItem := by
  have htype : (validator.keyword "type" (.ofString "array") keywordsSchema value).Judges
      (SimpleType.array.Has value) value.Showable Report.HereOrItem :=
    (hlawful.type .array _ value).judges (Or.inl rfl)
  have hlength : (validator.keyword "minItems" (.int 1) keywordsSchema value).Judges
      (∀ items, value = .array items → 1 ≤ items.length) value.Showable Report.HereOrItem :=
    (hlawful.minItems 1 _ value).judges (Or.inl rfl)
  obtain ⟨distinct, hunique, _, hdistinct⟩ := hlawful.uniqueItems keywordsSchema value
  have hunique : (validator.keyword "uniqueItems" (.bool true) keywordsSchema value).Judges
      distinct value.Showable Report.HereOrItem :=
    hunique.judges (Or.inl rfl)
  have hitems := judges_items hlawful value
  rw [isKeywordList_iff hdistinct, keywordsSchema, hlawful.check]
  exact htype.cons_same (hlength.cons_same (hunique.cons_same (hitems.cons_silent rfl)))

end Parts

end Config

end SqlTidy
