/-
Module: SqlTidy.Proofs.Identifiers
Purpose: Which tokens of a query formatting leaves as they are, and which identifiers among them.
Main exports: KeywordSet.hasWord, KeywordSet.isIdentifier, Keyword.of_mem_zip_flags,
  KeywordSet.unmarked_of_mem_markedPieces, identifier_kept_iff, format_respells_inside_identifier
-/
import SqlTidy.Proofs.Formatting
import SqlTidy.Text.Alphanumeric

namespace SqlTidy

open Text

/-!
Keywords are looked for between boundaries of ASCII words, and tokens are divided at blanks and
marks.  The two agree on an identifier of ASCII characters, which is one run.  An identifier with
letters of another alphabet is several runs, and a keyword can stand in one of them.
-/

namespace KeywordSet

/-- A text is a word of one of the keywords, whatever the case of its ASCII letters. -/
def hasWord (set : KeywordSet) (text : List Char) : Bool :=
  set.keywords.any fun keyword => keyword.words.any fun word => fold word == fold text

/-- An identifier consists of letters, digits and underscores of any alphabet, and is no word of a
keyword. -/
def isIdentifier (set : KeywordSet) (text : List Char) : Bool :=
  text.all isIdentifierChar && !set.hasWord text

end KeywordSet

/-! ### Runs that belong to a place -/

namespace Keyword

/-- What a run can be that belongs to a place of the words. -/
def PartOfPlace (words : List (List Char)) (run : List Char) : Prop :=
  run = [' '] ∨ ∃ word ∈ words, fold word = fold run

/-- Where the runs match, they are words and spaces for as long as the words go. -/
theorem partOfPlace_of_matchesRuns {words runs : List (List Char)}
    (h : matchesRuns words runs = true) :
    ∀ run ∈ runs.take (2 * words.length - 1), PartOfPlace words run := by
  induction words generalizing runs with
  | nil => simp [matchesRuns] at h
  | cons word words ih =>
      cases runs with
      | nil => simp at h
      | cons first rest =>
          have hfirst : PartOfPlace (word :: words) first :=
            Or.inr ⟨word, List.mem_cons_self, fold_eq_of_matchesRuns h⟩
          intro run hrun
          cases words with
          | nil =>
              obtain rfl : run = first := by simpa using hrun
              exact hfirst
          | cons next words =>
              cases rest with
              | nil => simp [matchesRuns_singleton] at h
              | cons gap rest =>
                  simp only [matchesRuns_cons_cons, Bool.and_eq_true, beq_iff_eq] at h
                  have hcount : 2 * (word :: next :: words).length - 1 =
                      (2 * (next :: words).length - 1) + 1 + 1 := by
                    simp only [List.length_cons]
                    omega
                  rw [hcount, List.take_succ_cons, List.take_succ_cons, List.mem_cons,
                    List.mem_cons] at hrun
                  rcases hrun with rfl | rfl | hrun
                  · exact hfirst
                  · exact Or.inl h.1.2
                  · refine (ih h.2 run hrun).imp_right ?_
                    rintro ⟨other, hother, hfold⟩
                    exact ⟨other, List.mem_cons_of_mem _ hother, hfold⟩

/-- A flagged run is a word or a space.  The induction is on the runs; the pending ones belong to a
place that has been found before them. -/
theorem of_mem_zip_flags {words : List (List Char)} {pending : Nat} {runs : List (List Char)}
    (hpending : ∀ run ∈ runs.take pending, PartOfPlace words run) :
    ∀ run, (run, true) ∈ runs.zip (flags words pending runs) → PartOfPlace words run := by
  induction runs generalizing pending with
  | nil => simp
  | cons first rest ih =>
      intro run hrun
      cases pending with
      | succ pending =>
          rw [flags, List.zip_cons_cons, List.mem_cons] at hrun
          rw [List.take_succ_cons] at hpending
          rcases hrun with heq | hrest
          · obtain ⟨rfl, _⟩ := Prod.mk.inj heq
            exact hpending run List.mem_cons_self
          · exact ih (fun other hother => hpending other (List.mem_cons_of_mem _ hother)) run hrest
      | zero =>
          by_cases hmatch : matchesRuns words (first :: rest) = true
          · have hplace := partOfPlace_of_matchesRuns hmatch
            have hcount : 2 * words.length - 1 = 2 * words.length - 2 + 1 := by
              cases words with
              | nil => simp [matchesRuns] at hmatch
              | cons word words =>
                  simp only [List.length_cons]
                  omega
            rw [hcount, List.take_succ_cons] at hplace
            rw [flags, if_pos hmatch, List.zip_cons_cons, List.mem_cons] at hrun
            rcases hrun with heq | hrest
            · obtain ⟨rfl, _⟩ := Prod.mk.inj heq
              exact hplace run List.mem_cons_self
            · exact ih (fun other hother => hplace other (List.mem_cons_of_mem _ hother)) run hrest
          · rw [flags, if_neg hmatch, List.zip_cons_cons, List.mem_cons] at hrun
            rcases hrun with heq | hrest
            · exact absurd heq (by simp)
            · exact ih (by simp) run hrest

/-- Runs in the middle that can belong to no place are not flagged. -/
theorem flags_between (words before : List (List Char)) {middle : List (List Char)}
    (after : List (List Char)) (h : ∀ run ∈ middle, ¬ PartOfPlace words run) :
    ∃ left right, left.length = before.length ∧
      flags words 0 (before ++ (middle ++ after)) =
        left ++ (List.replicate middle.length false ++ right) := by
  obtain ⟨left, others, hflags, hleft⟩ : ∃ left others,
      flags words 0 (before ++ (middle ++ after)) = left ++ others ∧
        left.length = before.length :=
    ⟨_, _, (List.take_append_drop before.length _).symm, by simp⟩
  have hothers : middle.length ≤ others.length := by
    have hlength := congrArg List.length hflags
    simp only [length_flags, List.length_append] at hlength
    omega
  refine ⟨left, others.drop middle.length, hleft, ?_⟩
  have hmiddle : others.take middle.length = List.replicate middle.length false := by
    refine List.eq_replicate_iff.2 ⟨by simpa using hothers, fun flag hflag => ?_⟩
    have hzip : (middle.zip (others.take middle.length)).map Prod.snd =
        others.take middle.length :=
      List.map_snd_zip (by simp)
    rw [← hzip] at hflag
    obtain ⟨⟨run, flag'⟩, hmem, rfl⟩ := List.mem_map.1 hflag
    apply Bool.eq_false_iff.2
    intro htrue
    obtain rfl : flag' = true := htrue
    have hflagged : (run, true) ∈ (before ++ (middle ++ after)).zip
        (flags words 0 (before ++ (middle ++ after))) := by
      rw [hflags, List.zip_append hleft.symm, List.mem_append]
      refine Or.inr ?_
      rw [← List.take_append_drop middle.length others,
        List.zip_append (by simpa using hothers), List.mem_append]
      exact Or.inl hmem
    exact h run (List.of_mem_zip hmem).1 (of_mem_zip_flags (by simp) run hflagged)
  rw [hflags, ← hmiddle, List.take_append_drop]

/-- A keyword covers nothing of a stretch of whole runs that can belong to no place of it. -/
theorem coverage_between {keyword : Keyword} {before middle after : List Char}
    (hruns : runs (before ++ (middle ++ after)) = runs before ++ (runs middle ++ runs after))
    (h : ∀ run ∈ runs middle, ¬ PartOfPlace keyword.words run) :
    ∃ left right, left.length = before.length ∧
      keyword.coverage (before ++ (middle ++ after)) =
        left ++ (List.replicate middle.length false ++ right) := by
  obtain ⟨left, right, hleft, hflags⟩ :=
    flags_between keyword.words (runs before) (runs after) h
  refine ⟨spreadFlags left (runs before), spreadFlags right (runs after), ?_, ?_⟩
  · rw [length_spreadFlags hleft, flatten_runs]
  · rw [coverage, hruns, hflags, spreadFlags_append hleft, spreadFlags_append (by simp),
      spreadFlags_replicate, flatten_runs]

theorem isWordChar_of_endsPiece {c : Char} (h : endsPiece c = true) : isWordChar c = false := by
  simp only [endsPiece, breaks, Bool.or_eq_true] at h
  rcases h with hblank | hmark
  · exact isWordChar_of_isBlank hblank
  · exact isWordChar_of_isMark hmark

/-- Between two ends of pieces a text has its own runs. -/
theorem runs_between {before : List Char} (middle : List Char) {after : List Char}
    (hbefore : ∀ c ∈ before.getLast?, endsPiece c = true)
    (hafter : ∀ c ∈ after.head?, endsPiece c = true) :
    runs (before ++ (middle ++ after)) = runs before ++ (runs middle ++ runs after) := by
  have hapart : StartsApart after := fun c hc => isWordChar_of_endsPiece (hafter c hc)
  rw [← runs_append hapart]
  apply divide_append_of_getLast?
  intro c hc
  simp [breaks, isWordChar_of_endsPiece (hbefore c hc)]

end Keyword

namespace KeywordSet

theorem not_partOfPlace {set : KeywordSet} {run : List Char} (hblank : ' ' ∉ run)
    (hword : set.hasWord run = false) :
    ∀ keyword ∈ set.keywords, ¬ Keyword.PartOfPlace keyword.words run := by
  rintro keyword hkeyword (rfl | ⟨word, hmem, hfold⟩)
  · exact hblank (by simp)
  · refine Bool.eq_false_iff.1 hword ?_
    simp only [hasWord, List.any_eq_true, beq_iff_eq]
    exact ⟨keyword, hkeyword, word, hmem, hfold⟩

theorem coverage_between {set : KeywordSet} {before middle after : List Char}
    (hruns : runs (before ++ (middle ++ after)) = runs before ++ (runs middle ++ runs after))
    (h : ∀ run ∈ runs middle, ∀ keyword ∈ set.keywords, ¬ Keyword.PartOfPlace keyword.words run) :
    ∃ left right, left.length = before.length ∧
      set.coverage (before ++ (middle ++ after)) =
        left ++ (List.replicate middle.length false ++ right) := by
  obtain ⟨keywords⟩ := set
  induction keywords with
  | nil =>
      refine ⟨List.replicate before.length false, List.replicate after.length false, by simp, ?_⟩
      simp [coverage]
  | cons keyword keywords ih =>
      obtain ⟨left, right, hleft, hcoverage⟩ :=
        Keyword.coverage_between hruns fun run hrun => h run hrun keyword List.mem_cons_self
      obtain ⟨left', right', hleft', hcoverage'⟩ := ih fun run hrun other hother =>
        h run hrun other (List.mem_cons_of_mem _ hother)
      refine ⟨List.zipWith (· || ·) left left', List.zipWith (· || ·) right right',
        by simp [hleft, hleft'], ?_⟩
      rw [coverage_mk_cons, hcoverage, hcoverage', List.zipWith_append (hleft.trans hleft'.symm),
        List.zipWith_append (by simp)]
      simp

/-- A piece without marks stands between two ends of pieces, so its runs are runs of the text. -/
theorem exists_context_of_mem_markedPieces {set : KeywordSet} {text : List Char}
    {piece : List (Char × Bool)} (hpiece : piece ∈ set.markedPieces text)
    (hmark : ∀ character ∈ piece, isMark character.1 = false) :
    ∃ before after, set.marked text = before ++ (piece ++ after) ∧
      before.map Prod.fst ++ (piece.map Prod.fst ++ after.map Prod.fst) = text ∧
      runs (before.map Prod.fst ++ (piece.map Prod.fst ++ after.map Prod.fst)) =
        runs (before.map Prod.fst) ++ (runs (piece.map Prod.fst) ++ runs (after.map Prod.fst)) := by
  rcases mem_divide hpiece with
    ⟨character, rfl, _, halone⟩ | ⟨before, after, htext, _, _, hbefore, hafter⟩
  · have hoff := hmark character (by simp)
    exact absurd halone (by simp [isMarkAt, hoff])
  · refine ⟨before, after, by rw [htext, List.append_assoc], ?_, ?_⟩
    · rw [← map_fst_marked set text, htext]
      simp
    · apply Keyword.runs_between
      · intro c hc
        rw [List.getLast?_map] at hc
        obtain ⟨character, hmem, rfl⟩ := Option.map_eq_some_iff.1 hc
        exact hbefore character hmem
      · intro c hc
        rw [List.head?_map] at hc
        obtain ⟨character, hmem, rfl⟩ := Option.map_eq_some_iff.1 hc
        exact hafter character hmem

theorem map_fst_mem_pieces {set : KeywordSet} {text : List Char} {piece : List (Char × Bool)}
    (hpiece : piece ∈ set.markedPieces text) : piece.map Prod.fst ∈ pieces text := by
  rw [← set.map_fst_markedPieces]
  exact List.mem_map_of_mem hpiece

/-- No keyword covers a character of a piece that is no mark and has no run that is a word of a
keyword. -/
theorem unmarked_of_mem_markedPieces {set : KeywordSet} {text : List Char}
    {piece : List (Char × Bool)} (hpiece : piece ∈ set.markedPieces text)
    (hmark : ∀ character ∈ piece, isMark character.1 = false)
    (hword : ∀ run ∈ runs (piece.map Prod.fst), set.hasWord run = false) :
    ∀ character ∈ piece, character.2 = false := by
  obtain ⟨before, after, htext, hfst, hruns⟩ := exists_context_of_mem_markedPieces hpiece hmark
  have hplace : ∀ run ∈ runs (piece.map Prod.fst), ∀ keyword ∈ set.keywords,
      ¬ Keyword.PartOfPlace keyword.words run := by
    intro run hrun
    apply not_partOfPlace _ (hword run hrun)
    -- A piece has no blanks, and its runs have no other characters.
    intro hspace
    have hflat : ' ' ∈ (runs (piece.map Prod.fst)).flatten :=
      List.mem_flatten.2 ⟨run, hrun, hspace⟩
    rw [flatten_runs] at hflat
    have hoff := (not_blank_of_mem_pieces (map_fst_mem_pieces hpiece)).2 ' ' hflat
    exact absurd hoff (by decide)
  obtain ⟨left, right, hleft, hcoverage⟩ := coverage_between hruns hplace
  have hmarked : before ++ (piece ++ after) =
      (before.map Prod.fst).zip left ++
        ((piece.map Prod.fst).zip (List.replicate (piece.map Prod.fst).length false) ++
          (after.map Prod.fst).zip right) := by
    rw [← htext, marked, ← hfst, hcoverage, List.zip_append hleft.symm, List.zip_append (by simp)]
  have hrest := (List.append_inj hmarked (by simp [hleft])).2
  have heq := (List.append_inj hrest (by simp)).1
  intro character hcharacter
  rw [heq] at hcharacter
  exact (List.mem_replicate.1 (List.of_mem_zip hcharacter).2).2

/-- An identifier of ASCII characters is one run, which is no word of a keyword. -/
theorem hasWord_of_mem_runs {set : KeywordSet} {text : List Char}
    (htext : set.isIdentifier text = true) (hascii : isAscii text = true) :
    ∀ run ∈ runs text, set.hasWord run = false := by
  simp only [isIdentifier, Bool.and_eq_true, List.all_eq_true, Bool.not_eq_true'] at htext
  simp only [isAscii, List.all_eq_true, decide_eq_true_eq] at hascii
  have hrun : ∀ c ∈ text, Keyword.isWordChar c = true := by
    intro c hc
    have hchar := htext.1 c hc
    rw [isIdentifierChar, isAlphanumeric, if_pos (hascii c hc)] at hchar
    exact hchar
  cases text with
  | nil => simp
  | cons c text =>
      have hruns : runs (c :: text) = [c :: text] :=
        divide_eq_singleton (by simp) fun d hd => by simp [breaks, hrun d hd]
      intro run hmem
      rw [hruns, List.mem_singleton] at hmem
      rw [hmem]
      exact htext.2

end KeywordSet

theorem Text.isMark_of_isIdentifierChar {c : Char} (h : isIdentifierChar c = true) :
    isMark c = false := by
  apply Bool.eq_false_iff.2
  intro hmark
  rcases isMark_cases hmark with rfl | rfl | rfl | rfl <;> exact absurd h (by decide)

/-! ### Tokens that stay as they are -/

namespace Style

/-- The tokens of a formatted query are the marked pieces of the query, recased. -/
theorem tokenize_format {style : Style} (hset : style.keywords.WordShaped) (query : List Char) :
    tokenize style.keywords (style.format query) =
      (style.keywords.markedPieces (collapse query)).map fun piece =>
        Token.ofPiece style.keywords (piece.map style.casing.recase) := by
  rw [tokenize, pieces_format, normalize, KeywordSet.pieces_normalize hset, List.map_map]
  rfl

end Style

theorem tokenize_eq_map_markedPieces (set : KeywordSet) (query : List Char) :
    tokenize set query =
      (set.markedPieces (collapse query)).map fun piece =>
        Token.ofPiece set (piece.map Prod.fst) := by
  rw [tokenize, ← pieces_collapse, ← set.map_fst_markedPieces, List.map_map]
  rfl

theorem Casing.map_recase_eq_iff (casing : Casing) (piece : List (Char × Bool)) :
    piece.map casing.recase = piece.map Prod.fst ↔
      ∀ c, (c, true) ∈ piece → casing.letter c = c := by
  rw [List.map_inj_left]
  constructor
  · intro h c hc
    exact h (c, true) hc
  · rintro h ⟨c, mark⟩ hc
    cases mark with
    | false => rfl
    | true => exact h c hc

/-- A token stays as it is exactly if its covered characters have the case of the policy already. -/
theorem Style.token_kept_iff (style : Style) (hset : style.keywords.WordShaped)
    {query : List Char} {i : Nat} {token : Token}
    (h : (tokenize style.keywords query)[i]? = some token) :
    ∃ piece, (style.keywords.markedPieces (collapse query))[i]? = some piece ∧
      piece.map Prod.fst = token.value ∧
      ((tokenize style.keywords (style.format query))[i]? = some token ↔
        ∀ c, (c, true) ∈ piece → style.casing.letter c = c) := by
  rw [tokenize_eq_map_markedPieces, List.getElem?_map] at h
  obtain ⟨piece, hpiece, rfl⟩ := Option.map_eq_some_iff.1 h
  refine ⟨piece, hpiece, by simp, ?_⟩
  rw [tokenize_format hset, List.getElem?_map, hpiece, Option.map_some, Option.some.injEq,
    ← Casing.map_recase_eq_iff]
  constructor
  · intro heq
    simpa using congrArg Token.value heq
  · intro heq
    rw [heq]

/-- When formatting leaves a token as it is.  It does so exactly if every character of the token that
belongs to a place of a keyword in the collapsed query has the case of the policy already.  So an
identifier stays as it is if none of its runs of ASCII letters, digits and underscores is a word of
a keyword, and in particular if all its characters are ASCII. -/
theorem identifier_kept_iff (options : Options) (set : KeywordSet) (size : Int)
    (hkeywords : options.keywords = some set) (hset : set.isWordShaped = true)
    (hindent : options.indentSize = .int size) (hsize : size < 2 ^ 31) (query : List Char) :
    ∃ out, options.format query = .ok out ∧
      ∀ (i : Nat) (token : Token), (tokenize set query)[i]? = some token →
        ∃ piece, (set.markedPieces (collapse query))[i]? = some piece ∧
          piece.map Prod.fst = token.value ∧
          ((tokenize set out)[i]? = some token ↔
            ∀ c, (c, true) ∈ piece →
              (Options.casingOf options.keywordCase).letter c = c) ∧
          (set.isIdentifier token.value = true →
            (∀ run ∈ runs token.value, set.hasWord run = false) →
            (tokenize set out)[i]? = some token) ∧
          (set.isIdentifier token.value = true → isAscii token.value = true →
            (tokenize set out)[i]? = some token) := by
  refine ⟨_, Options.format_eq hkeywords hindent hsize query, ?_⟩
  intro i token htoken
  have hshaped := KeywordSet.wordShaped_of_isWordShaped hset
  obtain ⟨piece, hpiece, hvalue, hiff⟩ :=
    Style.token_kept_iff ⟨size.toNat, Options.casingOf options.keywordCase, set⟩ hshaped htoken
  have hkept : set.isIdentifier token.value = true →
      (∀ run ∈ runs token.value, set.hasWord run = false) →
      ∀ c, (c, true) ∈ piece → (Options.casingOf options.keywordCase).letter c = c := by
    intro hident hruns c hc
    simp only [KeywordSet.isIdentifier, Bool.and_eq_true, List.all_eq_true] at hident
    have hmark : ∀ character ∈ piece, isMark character.1 = false := by
      intro character hcharacter
      refine isMark_of_isIdentifierChar (hident.1 character.1 ?_)
      rw [← hvalue]
      exact List.mem_map_of_mem hcharacter
    rw [← hvalue] at hruns
    have hoff := KeywordSet.unmarked_of_mem_markedPieces (List.mem_of_getElem? hpiece) hmark hruns
      (c, true) hc
    exact absurd hoff (by simp)
  refine ⟨piece, hpiece, hvalue, hiff, ?_, ?_⟩
  · intro hident hruns
    exact hiff.2 (hkept hident hruns)
  · intro hident hascii
    exact hiff.2 (hkept hident (KeywordSet.hasWord_of_mem_runs hident hascii))

/-- An identifier of ASCII characters and one of another alphabet, at their places in a query. -/
theorem identifier_kept_iff_orders :
    ∃ out, Options.format {} "select orders, año".toList = .ok out ∧
      (tokenize .standard out)[1]? = some (.text "orders".toList) ∧
      (tokenize .standard out)[3]? = some (.text "año".toList) := by
  obtain ⟨out, hout, htokens⟩ :=
    identifier_kept_iff {} .standard 2 rfl (by decide +kernel) rfl (by decide)
      "select orders, año".toList
  obtain ⟨_, _, _, _, _, hascii⟩ := htokens 1 (.text "orders".toList) (by decide +kernel)
  obtain ⟨_, _, _, _, hruns, _⟩ := htokens 3 (.text "año".toList) (by decide +kernel)
  exact ⟨out, hout, hascii (by decide +kernel) (by decide +kernel),
    hruns (by decide +kernel) (by decide +kernel)⟩

/-- A keyword inside an identifier is respelled if a letter of another alphabet stands before it. -/
theorem format_respells_inside_identifier :
    tokenize .standard "señor".toList = [.text "señor".toList] ∧
      KeywordSet.standard.isIdentifier "señor".toList = true ∧
      Options.format {} "señor".toList = .ok "señOR".toList ∧
      tokenize .standard "señOR".toList = [.text "señOR".toList] := by
  have hset : KeywordSet.standard.WordShaped :=
    KeywordSet.wordShaped_of_isWordShaped (by decide +kernel)
  have hnormalize : KeywordSet.standard.normalize .upper "señor".toList = "señOR".toList := by
    rw [KeywordSet.normalize_eq hset]
    decide +kernel
  have hlayout : Style.format ⟨Int.toNat 2, .upper, .standard⟩ "señor".toList =
      "señOR".toList := by
    rw [Style.format, Style.normalize, hnormalize]
    decide +kernel
  have hkeywords : ({} : Options).keywords = some .standard := rfl
  have hindent : ({} : Options).indentSize = .int 2 := rfl
  have hcasing : Options.casingOf ({} : Options).keywordCase = .upper := by decide
  have hformat := Options.format_eq hkeywords hindent (by decide) "señor".toList
  rw [hcasing, hlayout] at hformat
  exact ⟨by decide +kernel, by decide +kernel, hformat, by decide +kernel⟩

end SqlTidy
