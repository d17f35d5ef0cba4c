/-
Module: SqlTidy.Proofs.Outline
Purpose: Formatting keeps the outline of a query, its marks and the words between them, whatever the
  keywords are.
Main exports: Respelled, Respelled.append, outline, Respelled.outline_eq, Keyword.respelled_respell,
  Style.outline_format, format_keeps_outline
-/
import SqlTidy.Proofs.Formatting

namespace SqlTidy

open Text

/-!
A keyword may be any text at all: it may hold marks, stand inside a word, have no characters, or
become longer in small spelling.  What respelling it cannot do is touch a blank or a mark, and it
leaves something of every other character.  So no piece of the query disappears, and none is cut or
joined to another.
-/

/-- The second text is the first one with the characters inside its pieces respelled: blanks and
marks stay, and every other character becomes one or more characters that are neither. -/
inductive Respelled : List Char → List Char → Prop
  | nil : Respelled [] []
  | stop {c : Char} {text other : List Char} (hc : endsPiece c = true)
      (rest : Respelled text other) : Respelled (c :: text) (c :: other)
  | spell {c : Char} {spelling text other : List Char} (hc : endsPiece c = false)
      (nonempty : spelling ≠ []) (inside : ∀ d ∈ spelling, endsPiece d = false)
      (rest : Respelled text other) : Respelled (c :: text) (spelling ++ other)

namespace Respelled

/-- A character of a piece may stay as it is, too. -/
theorem cons (c : Char) {text other : List Char} (h : Respelled text other) :
    Respelled (c :: text) (c :: other) := by
  cases hc : endsPiece c with
  | true => exact .stop hc h
  | false => exact .spell hc (List.cons_ne_nil c []) (by simpa using hc) h

theorem append {text other more others : List Char} (h : Respelled text other)
    (hmore : Respelled more others) : Respelled (text ++ more) (other ++ others) := by
  induction h with
  | nil => exact hmore
  | stop hc _ ih => exact .stop hc ih
  | spell hc nonempty inside _ ih =>
      rw [List.append_assoc]
      exact .spell hc nonempty inside ih

theorem isBlank_head? {text other : List Char} (h : Respelled text other)
    (htext : ∀ c ∈ text.head?, isBlank c = false) : ∀ c ∈ other.head?, isBlank c = false := by
  cases h with
  | nil => exact htext
  | stop hc rest => simpa using htext
  | spell hc nonempty inside rest =>
      intro d hd
      rw [List.head?_append_of_ne_nil _ nonempty] at hd
      have hinside := inside d (List.mem_of_mem_head? hd)
      exact (Bool.or_eq_false_iff.1 hinside).1

/-- The blanks stay, and so do the characters next to them as far as blanks go. -/
theorem evenlySpaced {text other : List Char} (h : Respelled text other)
    (heven : EvenlySpaced text) : EvenlySpaced other := by
  induction h with
  | nil => exact trivial
  | stop hc rest ih =>
      refine ⟨fun hblank => ⟨(heven.1 hblank).1, ?_⟩, ih heven.2⟩
      exact rest.isBlank_head? (heven.1 hblank).2
  | @spell c spelling text other hc nonempty inside rest ih =>
      have hother := ih heven.2
      clear nonempty
      induction spelling with
      | nil => exact hother
      | cons d spelling ihspelling =>
          have hd := (Bool.or_eq_false_iff.1 (inside d List.mem_cons_self)).1
          refine ⟨fun hblank => absurd hblank (by simp [hd]), ?_⟩
          exact ihspelling fun e he => inside e (List.mem_cons_of_mem _ he)

end Respelled

/-! ### Outlines -/

/-- The outline of a text: for each of its pieces the mark that it is, and nothing for a word. -/
def outline (text : List Char) : List (Option Token) :=
  (pieces text).map Token.mark?

theorem Token.mark?_of_inside {piece : List Char} (h : ∀ c ∈ piece, endsPiece c = false) :
    mark? piece = none := by
  match piece with
  | [] => rfl
  | [c] => exact mark?_of_not_isMark (Bool.or_eq_false_iff.1 (h c List.mem_cons_self)).2
  | _ :: _ :: _ => simp [mark?]

/-- Two texts have been read to the same outline: both are inside a word, or neither is. -/
structure SameOutline (state other : OpenRun Char) : Prop where
  empty : state.run = [] ↔ other.run = []
  inside : ∀ c ∈ state.run, endsPiece c = false
  inside' : ∀ c ∈ other.run, endsPiece c = false
  later : state.later.map Token.mark? = other.later.map Token.mark?

theorem Text.OpenRun.close_of_ne_nil {state : OpenRun Char} (h : state.run ≠ []) :
    state.close = state.run :: state.later := by
  unfold OpenRun.close
  split
  · contradiction
  · rfl

namespace SameOutline

variable {state other : OpenRun Char}

theorem close (h : SameOutline state other) :
    state.close.map Token.mark? = other.close.map Token.mark? := by
  by_cases hrun : state.run = []
  · have hother := h.empty.1 hrun
    simpa [OpenRun.close, hrun, hother] using h.later
  · have hother := mt h.empty.2 hrun
    rw [OpenRun.close_of_ne_nil hrun, OpenRun.close_of_ne_nil hother, List.map_cons, List.map_cons,
      Token.mark?_of_inside h.inside, Token.mark?_of_inside h.inside', h.later]

/-- A blank or a mark ends the word, if there is one. -/
theorem read_stop (h : SameOutline state other) {c : Char} (hc : endsPiece c = true) :
    SameOutline (OpenRun.read isBlank isMark c state) (OpenRun.read isBlank isMark c other) := by
  by_cases hblank : isBlank c = true
  · have hread : ∀ s : OpenRun Char, OpenRun.read isBlank isMark c s = ⟨[], s.close⟩ := by
      simp [OpenRun.read, hblank]
    rw [hread, hread]
    exact ⟨Iff.rfl, by simp, by simp, h.close⟩
  · have hmark : isMark c = true := by simpa [breaks, hblank] using hc
    have hread : ∀ s : OpenRun Char, OpenRun.read isBlank isMark c s = ⟨[], [c] :: s.close⟩ := by
      simp [OpenRun.read, hblank, hmark]
    rw [hread, hread]
    exact ⟨Iff.rfl, by simp, by simp, by simp [h.close]⟩

end SameOutline

/-- Characters inside a piece are all read into the open run. -/
theorem foldr_read_inside {run : List Char} (h : ∀ c ∈ run, endsPiece c = false)
    (state : OpenRun Char) :
    run.foldr (OpenRun.read isBlank isMark) state = ⟨run ++ state.run, state.later⟩ := by
  induction run with
  | nil => rfl
  | cons c run ih =>
      have hc := Bool.or_eq_false_iff.1 (h c List.mem_cons_self)
      rw [List.foldr_cons, ih fun d hd => h d (List.mem_cons_of_mem _ hd)]
      simp [OpenRun.read, hc.1, hc.2]

theorem Respelled.foldr_read {text other : List Char} (h : Respelled text other) :
    SameOutline (text.foldr (OpenRun.read isBlank isMark) ⟨[], []⟩)
      (other.foldr (OpenRun.read isBlank isMark) ⟨[], []⟩) := by
  induction h with
  | nil => exact ⟨Iff.rfl, by simp, by simp, rfl⟩
  | stop hc _ ih => exact ih.read_stop hc
  | @spell c spelling text other hc nonempty inside _ ih =>
      have hchar : ∀ d ∈ [c], endsPiece d = false := by simpa using hc
      have hread : (c :: text).foldr (OpenRun.read isBlank isMark) ⟨[], []⟩ = _ :=
        foldr_read_inside hchar (text.foldr (OpenRun.read isBlank isMark) ⟨[], []⟩)
      rw [hread, List.foldr_append, foldr_read_inside inside]
      exact ⟨by simp [nonempty], List.forall_mem_append.2 ⟨hchar, ih.inside⟩,
        List.forall_mem_append.2 ⟨inside, ih.inside'⟩, ih.later⟩

/-- Respelling keeps the outline of a text. -/
theorem Respelled.outline_eq {text other : List Char} (h : Respelled text other) :
    outline text = outline other :=
  h.foldr_read.close

/-! ### Small spelling

No table of letters leads to a blank or a mark, or changes one. -/

namespace Text

/-- The code points of blanks and marks, as ranges. -/
def stopRanges : List (Nat × Nat) :=
  [(0x9, 0xD), (0x1C, 0x20), (0x28, 0x29), (0x2C, 0x2C), (0x3B, 0x3B), (0x85, 0x85), (0xA0, 0xA0),
    (0x1680, 0x1680), (0x2000, 0x200A), (0x2028, 0x2029), (0x202F, 0x202F), (0x205F, 0x205F),
    (0x3000, 0x3000)]

theorem mem_stopRanges_of_endsPiece {c : Char} (h : endsPiece c = true) :
    ∃ range ∈ stopRanges, range.1 ≤ c.toNat ∧ c.toNat ≤ range.2 := by
  rcases Bool.or_eq_true_iff.1 h with hblank | hmark
  · simp only [isBlank, Bool.or_eq_true, Bool.and_eq_true, decide_eq_true_eq, beq_iff_eq] at hblank
    simp only [stopRanges, List.mem_cons, List.not_mem_nil, or_false, exists_eq_or_imp,
      exists_eq_left]
    omega
  · rcases isMark_cases hmark with rfl | rfl | rfl | rfl <;> decide

/-- A run of capital letters is apart from all blanks and marks, and so are their small forms. -/
theorem smallRuns_apart : ∀ run ∈ smallRuns, ∀ range ∈ stopRanges,
    (run.last < range.1 ∨ range.2 < run.first) ∧ 0 < range.1 ∧
      (run.last + run.shift < range.1 ∨ range.2 < run.first + run.shift) := by
  decide +kernel

theorem mem_of_find?_covers {runs : List CaseRun} {run : CaseRun} {n : Nat}
    (h : runs.find? (·.covers n) = some run) : run ∈ runs ∧ run.first ≤ n ∧ n ≤ run.last := by
  have hcovers := List.find?_some h
  simp only [CaseRun.covers, Bool.and_eq_true, decide_eq_true_eq] at hcovers
  exact ⟨List.mem_of_find?_eq_some h, hcovers.1⟩

/-- A blank or a mark has no small form. -/
theorem apply_smallRuns_of_endsPiece {c : Char} (h : endsPiece c = true) :
    CaseRun.apply smallRuns c.toNat = c.toNat := by
  unfold CaseRun.apply
  split
  · rename_i run hrun
    obtain ⟨hmem, hfirst, hlast⟩ := mem_of_find?_covers hrun
    obtain ⟨range, hrange, hlow, hhigh⟩ := mem_stopRanges_of_endsPiece h
    have hapart := (smallRuns_apart run hmem range hrange).1
    omega
  · rfl

/-- No small form is a blank or a mark. -/
theorem not_endsPiece_smallRuns {c : Char} (h : endsPiece c = false) :
    endsPiece (Char.ofNat (CaseRun.apply smallRuns c.toNat)) = false := by
  unfold CaseRun.apply
  split
  · rename_i run hrun
    obtain ⟨hmem, hfirst, hlast⟩ := mem_of_find?_covers hrun
    apply Bool.eq_false_iff.2
    intro hstop
    obtain ⟨range, hrange, hlow, hhigh⟩ := mem_stopRanges_of_endsPiece hstop
    obtain ⟨_, hpos, hapart⟩ := smallRuns_apart run hmem range hrange
    rw [Char.toNat_ofNat] at hlow hhigh
    split at hlow <;> split at hhigh <;> omega
  · rw [Char.ofNat_toNat, h]

theorem isAlpha_of_endsPiece {c : Char} (h : endsPiece c = true) : c.isAlpha = false := by
  apply Bool.eq_false_iff.2
  intro halpha
  rcases Bool.or_eq_true_iff.1 h with hblank | hmark
  · exact absurd hblank (by simp [not_blank_of_isAlpha halpha])
  · exact absurd hmark (by simp [not_isMark_of_isAlpha halpha])

theorem endsPiece_toLower (c : Char) : endsPiece c.toLower = endsPiece c := by
  simp [breaks]

/-- A blank or a mark stays in small spelling. -/
theorem lowerChar_of_endsPiece (before : List Char) {c : Char} (h : endsPiece c = true)
    (after : List Char) : lowerChar before c after = [c] := by
  have hascii : c.toLower = c :=
    eq_of_toLower_eq (isAlpha_of_endsPiece h) (Char.toLower_toLower_eq_toLower c).symm
  have hother : ∀ n, endsPiece (Char.ofNat n) = false → (c.toNat == n) = false := by
    intro n hn
    apply Bool.eq_false_iff.2
    intro heq
    rw [← beq_iff_eq.1 heq, Char.ofNat_toNat, h] at hn
    exact absurd hn (by decide)
  rw [lowerChar, hascii, hother 0x3A3 (by decide), hother 0x130 (by decide),
    apply_smallRuns_of_endsPiece h, Char.ofNat_toNat]
  simp

/-- The small spelling of any other character is one character or more, and none of them is a blank
or a mark. -/
theorem not_endsPiece_lowerChar (before : List Char) {c : Char} (h : endsPiece c = false)
    (after : List Char) :
    lowerChar before c after ≠ [] ∧ ∀ d ∈ lowerChar before c after, endsPiece d = false := by
  have hsigma : endsPiece (if endsWord before after then 'ς' else 'σ') = false := by
    split <;> decide
  have hdotted : endsPiece 'i' = false ∧ endsPiece (Char.ofNat 0x307) = false := by decide
  unfold lowerChar
  split
  · simpa [endsPiece_toLower] using h
  · split
    · exact ⟨List.cons_ne_nil _ _, by simpa using hsigma⟩
    · split
      · exact ⟨List.cons_ne_nil _ _, by simpa using hdotted⟩
      · exact ⟨List.cons_ne_nil _ _, by simpa using not_endsPiece_smallRuns h⟩

end Text

/-! ### Respelling keywords -/

/-- Texts that differ in the case of ASCII letters are respellings of each other. -/
theorem respelled_of_fold_eq {text other : List Char} (h : fold text = fold other) :
    Respelled text other := by
  induction text generalizing other with
  | nil =>
      obtain rfl : other = [] := by simpa [fold] using h.symm
      exact .nil
  | cons c text ih =>
      cases other with
      | nil => simp at h
      | cons d other =>
          simp only [fold_cons, List.cons.injEq] at h
          have hrest := ih h.2
          cases hc : endsPiece c with
          | true =>
              obtain rfl : d = c := eq_of_toLower_eq (isAlpha_of_endsPiece hc) h.1
              exact .stop hc hrest
          | false =>
              have hd : endsPiece d = false :=
                (apply_eq_of_toLower_eq endsPiece_toLower h.1).symm.trans hc
              exact .spell hc (List.cons_ne_nil d []) (by simpa using hd) hrest

/-- Small spelling respells a text, whatever the case of its ASCII letters. -/
theorem respelled_lowerAfter (before : List Char) {text other : List Char}
    (h : fold text = fold other) : Respelled text (lowerAfter before other) := by
  induction other generalizing text before with
  | nil =>
      obtain rfl : text = [] := by simpa [fold] using h
      exact .nil
  | cons d other ih =>
      cases text with
      | nil => simp at h
      | cons c text =>
          simp only [fold_cons, List.cons.injEq] at h
          have hrest := ih (d :: before) h.2
          rw [lowerAfter]
          cases hc : endsPiece c with
          | true =>
              obtain rfl : d = c := eq_of_toLower_eq (isAlpha_of_endsPiece hc) h.1
              rw [lowerChar_of_endsPiece before hc]
              exact .stop hc hrest
          | false =>
              have hd : endsPiece d = false :=
                (apply_eq_of_toLower_eq endsPiece_toLower h.1).symm.trans hc
              obtain ⟨nonempty, inside⟩ := not_endsPiece_lowerChar before hd other
              exact .spell hc nonempty inside hrest

namespace Keyword

/-- In an evenly spaced text, what the words of a keyword split off is its spelling up to case.
Nothing is asked of the words. -/
theorem fold_of_splitWords? {words : List (List Char)} {text found rest : List Char}
    (heven : EvenlySpaced text) (h : splitWords? words text = some (found, rest)) :
    fold found = fold (joinWords words) := by
  induction words generalizing text found with
  | nil => simp [splitWords?] at h
  | cons word words ih =>
      cases words with
      | nil =>
          rw [joinWords, List.intercalate_singleton]
          exact fold_of_splitWord? h
      | cons next words =>
          obtain ⟨first, after, others, hfirst, hgap, hothers, rfl⟩ :=
            splitWords?_cons_cons_eq_some h
          have hspelling : joinWords (word :: next :: words) =
              word ++ [' '] ++ joinWords (next :: words) := List.intercalate_cons_cons
          rw [← append_of_splitWord? hfirst] at heven
          have heven : EvenlySpaced after := heven.of_append_right
          -- The gap starts with a blank, which can only be a space.
          cases after with
          | nil => exact absurd rfl hgap
          | cons c after =>
              have hc : isGapChar c = true := by
                by_contra hc
                exact hgap (List.takeWhile_cons_of_neg hc)
              obtain ⟨rfl, _⟩ := heven.1 (isBlank_of_isGapChar hc)
              obtain ⟨htake, hdrop⟩ := gap_of_evenlySpaced heven
              rw [hdrop] at hothers
              rw [hspelling, htake, fold_append, fold_append, fold_append, fold_append,
                fold_of_splitWord? hfirst, ih heven.2 hothers]

/-- Under every policy, an occurrence in an evenly spaced text is respelled. -/
theorem respelled_spell (keyword : Keyword) (casing : Casing) {before : Option Char}
    {text found rest : List Char} (heven : EvenlySpaced text)
    (h : keyword.occurrence? before text = some (found, rest)) :
    Respelled found (casing.spell keyword found) := by
  have hfold : fold found = fold keyword.spelling := by
    simp only [occurrence?] at h
    split at h
    · rename_i hsplit
      split at h
      · simp only [Option.some.injEq, Prod.mk.injEq] at h
        obtain ⟨rfl, rfl⟩ := h
        exact fold_of_splitWords? heven hsplit
      · simp at h
    · simp at h
  cases casing with
  | upper => exact respelled_of_fold_eq hfold
  | lower => exact respelled_lowerAfter [] hfold
  | keep => exact respelled_of_fold_eq rfl

/-- What the scan adds to what it has written is a respelling of what is left to read. -/
theorem respelled_respellAfter (keyword : Keyword) (casing : Casing) (before : Option Char)
    (done text : List Char) (heven : EvenlySpaced text) :
    ∃ added, keyword.respellAfter (casing.spell keyword) before done text = done.reverse ++ added ∧
      Respelled text added := by
  fun_induction respellAfter keyword (casing.spell keyword) before done text with
  | case1 before done => exact ⟨[], by simp, .nil⟩
  | case2 before done c tail f found rest hocc ih =>
      have hsplit := append_of_occurrence? hocc
      have hfound := respelled_spell keyword casing heven hocc
      rw [← hsplit] at heven ⊢
      obtain ⟨added, hadded, hrest⟩ := ih heven.of_append_right
      exact ⟨casing.spell keyword (f :: found) ++ added, by simp [hadded], hfound.append hrest⟩
  | case3 before done c tail hocc ih =>
      obtain ⟨added, hadded, hrest⟩ := ih heven.2
      exact ⟨c :: added, by simp [hadded], hrest.cons c⟩

theorem respelled_respell (keyword : Keyword) (casing : Casing) {text : List Char}
    (heven : EvenlySpaced text) :
    Respelled text (keyword.respell (casing.spell keyword) text) := by
  obtain ⟨added, hadded, hrespelled⟩ :=
    respelled_respellAfter keyword casing none [] text heven
  rw [respell, hadded]
  exact hrespelled

end Keyword

/-! ### The whole query -/

/-- Respelling keywords one after the other keeps the outline, and the spacing that the next one
relies on. -/
theorem outline_foldl_respell (casing : Casing) (keywords : List Keyword) {text : List Char}
    (heven : EvenlySpaced text) :
    outline
        (keywords.foldl (fun text keyword => keyword.respell (casing.spell keyword) text) text) =
      outline text := by
  induction keywords generalizing text with
  | nil => rfl
  | cons keyword keywords ih =>
      have hstep := keyword.respelled_respell casing heven
      rw [List.foldl_cons, ih (hstep.evenlySpaced heven), hstep.outline_eq]

/-- Formatting keeps the outline of a query. -/
theorem Style.outline_format (style : Style) (query : List Char) :
    outline (style.format query) = outline query := by
  calc outline (style.format query)
      = outline (style.normalize query) := by rw [outline, pieces_format, outline]
    _ = outline (collapse query) :=
      outline_foldl_respell style.casing style.keywords.keywords (evenlySpaced_collapse query)
    _ = outline query := by rw [outline, pieces_collapse, outline]

/-- The value of a token, or the placeholder if it is not one of the four marks. -/
def maskWord (placeholder value : List Char) : List Char :=
  if (Token.mark? value).isSome then value else placeholder

/-- The values with their words masked can be told from the outline. -/
theorem map_maskWord_pieces (placeholder text : List Char) :
    (pieces text).map (maskWord placeholder) =
      (outline text).map fun mark => (mark.map Token.value).getD placeholder := by
  rw [outline, List.map_map]
  apply List.map_congr_left
  intro piece _
  cases hmark : Token.mark? piece with
  | none => simp [maskWord, hmark]
  | some mark => simp [maskWord, hmark, Token.value_of_mark? hmark]

theorem countP_isWord_tokenize (reader : KeywordSet) (text : List Char) :
    (tokenize reader text).countP Token.isWord = (outline text).countP Option.isNone := by
  simp [tokenize, outline, List.countP_map, Function.comp_def]

/-- Formatting never merges, splits, drops or moves tokens, for any keywords at all.  Once every
token that is no mark is replaced by a placeholder, the token values of the query and of the
formatted query are the same, and so is the number of words.  The keywords may hold marks, be blank,
and change their length with their case. -/
theorem format_keeps_outline (options : Options) (set : KeywordSet) (size : Int)
    (hkeywords : options.keywords = some set) (hindent : options.indentSize = .int size)
    (hsize : size < 2 ^ 31) (query : List Char) :
    ∃ out, options.format query = .ok out ∧ ∀ (reader : KeywordSet) (placeholder : List Char),
      ((tokenize reader out).map Token.value).map (maskWord placeholder) =
        ((tokenize reader query).map Token.value).map (maskWord placeholder) ∧
      (tokenize reader out).countP Token.isWord = (tokenize reader query).countP Token.isWord := by
  refine ⟨_, Options.format_eq hkeywords hindent hsize query, fun reader placeholder => ⟨?_, ?_⟩⟩
  · rw [map_value_tokenize, map_value_tokenize, map_maskWord_pieces, map_maskWord_pieces,
      Style.outline_format]
  · rw [countP_isWord_tokenize, countP_isWord_tokenize, Style.outline_format]

/-- A keyword with a mark, one that small spelling makes longer, one inside a word and a blank
one. -/
theorem format_keeps_outline_unusual :
    (-1 : Int) < 2 ^ 31 ∧ ∃ out,
      Options.format ⟨.int (-1), .ofString "lower",
          some (.ofTexts ["b,  c".toList, "xİy".toList, "-".toList, "\t".toList])⟩
        "a-b, c (xİy;)".toList = .ok out ∧
      ∀ (reader : KeywordSet) (placeholder : List Char),
        ((tokenize reader out).map Token.value).map (maskWord placeholder) =
          ((tokenize reader "a-b, c (xİy;)".toList).map Token.value).map (maskWord placeholder) ∧
        (tokenize reader out).countP Token.isWord =
          (tokenize reader "a-b, c (xİy;)".toList).countP Token.isWord :=
  ⟨by decide, format_keeps_outline _ _ (-1) rfl rfl (by decide) _⟩

end SqlTidy
