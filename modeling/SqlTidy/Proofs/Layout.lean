/-
Module: SqlTidy.Proofs.Layout
Purpose: What the layout writes for a token, and that the tokens can be read back from it.
Main exports: Buffer.value_append, Buffer.value_trimEnd, Buffer.Filled, Buffer.atLineStart_eq,
  Layout.value_step, Layout.Shows, Layout.Shows.step, Layout.Shows.foldl_step, tokenize_layout
-/
import SqlTidy.Layout
import SqlTidy.Proofs.Tokens

namespace SqlTidy

open Text

/-!
### The buffer as a text

The parts of a buffer matter only to the question whether a line has just been ended.  For the text
itself, adding a part is joining two texts and trimming the parts is trimming the text.
-/

theorem Text.trimEnd_append (before after : List Char) :
    trimEnd (before ++ after) =
      if (trimEnd after).isEmpty then trimEnd before else before ++ trimEnd after := by
  simp only [trimEnd, List.reverse_append, List.dropWhile_append, List.isEmpty_reverse]
  split
  · rfl
  · rw [List.reverse_append, List.reverse_reverse]

namespace Buffer

theorem value_append (buffer : Buffer) (text : List Char) :
    (buffer.append text).value = buffer.value ++ text := by
  cases text with
  | nil => simp [append]
  | cons c text => simp [append, value, parts]

theorem flatten_reverse_trimParts (lastFirst : List (List Char)) :
    (trimParts lastFirst).reverse.flatten = Text.trimEnd lastFirst.reverse.flatten := by
  induction lastFirst with
  | nil => rfl
  | cons part earlier ih =>
      rw [List.reverse_cons, List.flatten_append, List.flatten_singleton, Text.trimEnd_append]
      cases hpart : Text.trimEnd part with
      | nil => simp [trimParts, hpart, ih]
      | cons c trimmed => simp [trimParts, hpart]

theorem value_trimEnd (buffer : Buffer) :
    buffer.trimEnd.value = Text.trimEnd buffer.value :=
  flatten_reverse_trimParts buffer.lastFirst

/-- No part of the buffer is empty, so the last part ends as the text does. -/
def Filled (buffer : Buffer) : Prop :=
  ∀ part ∈ buffer.lastFirst, part ≠ []

theorem filled_empty : empty.Filled := by
  simp [Filled, empty]

theorem Filled.append {buffer : Buffer} (h : buffer.Filled) (text : List Char) :
    (buffer.append text).Filled := by
  cases text with
  | nil => exact h
  | cons c text =>
      intro part hpart
      rcases List.mem_cons.1 hpart with rfl | hpart
      · exact List.cons_ne_nil c text
      · exact h part hpart

theorem ne_nil_of_mem_trimParts {lastFirst : List (List Char)}
    (h : ∀ part ∈ lastFirst, part ≠ []) : ∀ part ∈ trimParts lastFirst, part ≠ [] := by
  induction lastFirst with
  | nil => simp [trimParts]
  | cons part earlier ih =>
      have hearlier : ∀ other ∈ earlier, other ≠ [] :=
        fun other hother => h other (List.mem_cons_of_mem _ hother)
      cases hpart : Text.trimEnd part with
      | nil =>
          simp only [trimParts, hpart]
          exact ih hearlier
      | cons c trimmed =>
          simp only [trimParts, hpart]
          intro other hother
          rcases List.mem_cons.1 hother with rfl | hother
          · exact List.cons_ne_nil c trimmed
          · exact hearlier other hother

theorem Filled.trimEnd {buffer : Buffer} (h : buffer.Filled) : buffer.trimEnd.Filled :=
  ne_nil_of_mem_trimParts h

/-- A line starts where there is no text or the text ends with a line break. -/
theorem atLineStart_eq {buffer : Buffer} (h : buffer.Filled) :
    buffer.atLineStart = buffer.value.getLast?.all (· == '\n') := by
  obtain ⟨lastFirst⟩ := buffer
  cases lastFirst with
  | nil => rfl
  | cons part earlier =>
      have hpart : part ≠ [] := h part List.mem_cons_self
      have hlast : (Buffer.mk (part :: earlier)).value.getLast? = some (part.getLast hpart) := by
        simp [value, parts, List.getLast?_append, List.getLast?_eq_some_getLast hpart]
      simp [atLineStart, hlast, List.getLast?_eq_some_getLast hpart]

end Buffer

/-! ### One step of the layout

A step may trim the text written so far.  Then it adds the characters of the token between a lead
and a tail, and these two consist of line breaks, spaces and indentation. -/

namespace Token

/-- The token goes to the end of the line before it. -/
def trims : Token → Bool
  | openParen | comma | semicolon => true
  | closeParen | keyword _ | text _ => false

/-- What is written before the characters of a token. -/
def lead (unit : List Char) (state : Layout) : Token → List Char
  | openParen => [' ']
  | closeParen => '\n' :: Layout.indentation unit (state.depth - 1)
  | comma | semicolon | text _ => []
  | keyword _ =>
      (if state.buffer.atLineStart then [] else ['\n']) ++ Layout.indentation unit state.depth

/-- What is written after the characters of a token. -/
def tail (unit : List Char) (state : Layout) : Token → List Char
  | openParen => '\n' :: Layout.indentation unit (state.depth + 1)
  | closeParen => []
  | comma => '\n' :: Layout.indentation unit state.depth
  | semicolon => ['\n']
  | keyword _ | text _ => [' ']

end Token

namespace Layout

/-- The text after a step. -/
theorem value_step (unit : List Char) (state : Layout) (token : Token) :
    (step unit state token).buffer.value =
      (if token.trims then Text.trimEnd state.buffer.value else state.buffer.value) ++
        (token.lead unit state ++ (token.value ++ token.tail unit state)) := by
  cases token <;>
    simp [step, Token.trims, Token.lead, Token.tail, Token.value, Buffer.value_append,
      Buffer.value_trimEnd]

theorem filled_step (unit : List Char) {state : Layout} (h : state.buffer.Filled) (token : Token) :
    (step unit state token).buffer.Filled := by
  cases token with
  | openParen => exact h.trimEnd.append _
  | closeParen => exact h.append _
  | comma => exact h.trimEnd.append _
  | semicolon => exact h.trimEnd.append _
  | keyword word => exact h.append _
  | text word => exact h.append _

variable {unit : List Char}

theorem isBlank_of_mem_indentation (hunit : ∀ c ∈ unit, isBlank c = true) (depth : Nat) :
    ∀ c ∈ indentation unit depth, isBlank c = true := by
  intro c hc
  obtain ⟨level, hlevel, hmem⟩ := List.mem_flatten.1 hc
  rw [List.eq_of_mem_replicate hlevel] at hmem
  exact hunit c hmem

theorem isBlank_of_mem_lead (hunit : ∀ c ∈ unit, isBlank c = true) (state : Layout)
    (token : Token) : ∀ c ∈ token.lead unit state, isBlank c = true := by
  have hindent := isBlank_of_mem_indentation hunit
  have hnewline : isBlank '\n' = true := rfl
  have hspace : isBlank ' ' = true := rfl
  intro c hc
  cases token with
  | keyword word =>
      simp only [Token.lead, List.mem_append] at hc
      rcases hc with hc | hc
      · split at hc <;> simp_all
      · exact hindent _ c hc
  | closeParen =>
      rcases List.mem_cons.1 hc with rfl | hc
      · exact hnewline
      · exact hindent _ c hc
  | openParen => simp_all [Token.lead]
  | comma => simp [Token.lead] at hc
  | semicolon => simp [Token.lead] at hc
  | text word => simp [Token.lead] at hc

theorem isBlank_of_mem_tail (hunit : ∀ c ∈ unit, isBlank c = true) (state : Layout)
    (token : Token) : ∀ c ∈ token.tail unit state, isBlank c = true := by
  have hindent := isBlank_of_mem_indentation hunit
  have hnewline : isBlank '\n' = true := rfl
  have hspace : isBlank ' ' = true := rfl
  intro c hc
  cases token with
  | openParen =>
      rcases List.mem_cons.1 hc with rfl | hc
      · exact hnewline
      · exact hindent _ c hc
  | comma =>
      rcases List.mem_cons.1 hc with rfl | hc
      · exact hnewline
      · exact hindent _ c hc
  | closeParen => simp [Token.tail] at hc
  | semicolon => simp_all [Token.tail]
  | keyword word => simp_all [Token.tail]
  | text word => simp_all [Token.tail]

/-! ### The text shows the tokens

What carries the induction over the tokens is that the text written so far has the tokens as its
pieces and ends with a blank or a mark.  Where a step trims, the blank at the end may go, but then
the token starts with a blank or is itself a mark. -/

/-- The text of a state shows the tokens: they are its pieces, and the last piece is closed. -/
structure Shows (state : Layout) (tokens : List Token) : Prop where
  pieces_value : pieces state.buffer.value = tokens.map Token.value
  closed : ∀ c ∈ state.buffer.value.getLast?, endsPiece c = true

theorem shows_start : Shows start [] where
  pieces_value := rfl
  closed := by simp [start, Buffer.empty, Buffer.value, Buffer.parts]

/-- What a step writes for a token is one piece, the token itself. -/
theorem pieces_written (hunit : ∀ c ∈ unit, isBlank c = true) (state : Layout) {token : Token}
    (htoken : pieces token.value = [token.value]) :
    pieces (token.lead unit state ++ (token.value ++ token.tail unit state)) =
      [token.value] := by
  rw [pieces, divide_blanks_append isMark (isBlank_of_mem_lead hunit state token),
    divide_append_blanks isMark _ (isBlank_of_mem_tail hunit state token)]
  exact htoken

/-- A token that trims what comes before it starts with a blank or a mark. -/
theorem endsPiece_of_trims {state : Layout} {token : Token} (h : token.trims = true) :
    ∀ c ∈ (token.lead unit state ++ (token.value ++ token.tail unit state)).head?,
      endsPiece c = true := by
  cases token with
  | openParen => simp [Token.lead, breaks, show isBlank ' ' = true from rfl]
  | comma => simp [Token.lead, Token.value, breaks, show isMark ',' = true from rfl]
  | semicolon => simp [Token.lead, Token.value, breaks, show isMark ';' = true from rfl]
  | closeParen => simp [Token.trims] at h
  | keyword word => simp [Token.trims] at h
  | text word => simp [Token.trims] at h

/-- What a step writes ends with a blank or a mark. -/
theorem endsPiece_of_getLast?_written (hunit : ∀ c ∈ unit, isBlank c = true) (state : Layout)
    (token : Token) :
    ∃ c, endsPiece c = true ∧
      (token.lead unit state ++ (token.value ++ token.tail unit state)).getLast? = some c := by
  cases htail : (token.tail unit state).getLast? with
  | some c =>
      have hblank := isBlank_of_mem_tail hunit state token c (List.mem_of_getLast? htail)
      exact ⟨c, by simp [breaks, hblank], by simp [List.getLast?_append, htail]⟩
  | none =>
      -- Only a closing parenthesis has nothing after it.
      have hnil := List.getLast?_eq_none_iff.1 htail
      cases token with
      | closeParen =>
          exact ⟨')', by decide, by simp [Token.value, Token.tail, List.getLast?_append]⟩
      | openParen => simp [Token.tail] at hnil
      | comma => simp [Token.tail] at hnil
      | semicolon => simp [Token.tail] at hnil
      | keyword word => simp [Token.tail] at hnil
      | text word => simp [Token.tail] at hnil

theorem Shows.step {state : Layout} {tokens : List Token} (h : Shows state tokens)
    (hunit : ∀ c ∈ unit, isBlank c = true) {token : Token}
    (htoken : pieces token.value = [token.value]) :
    Shows (Layout.step unit state token) (tokens ++ [token]) := by
  obtain ⟨last, hlast, hgetLast⟩ := endsPiece_of_getLast?_written hunit state token
  have hwritten := pieces_written hunit state htoken
  constructor
  · rw [value_step, List.map_append, ← h.pieces_value]
    by_cases htrims : token.trims = true
    · rw [if_pos htrims, pieces, divide_append_of_head? (endsPiece_of_trims htrims),
        divide_trimEnd]
      exact congrArg (pieces state.buffer.value ++ ·) hwritten
    · rw [if_neg htrims, pieces, divide_append_of_getLast? h.closed]
      exact congrArg (pieces state.buffer.value ++ ·) hwritten
  · intro c hc
    rw [value_step, List.getLast?_append, hgetLast] at hc
    obtain rfl : last = c := by simpa using hc
    exact hlast

theorem Shows.foldl_step {state : Layout} {written : List Token} (h : Shows state written)
    (hunit : ∀ c ∈ unit, isBlank c = true) {tokens : List Token}
    (htokens : ∀ token ∈ tokens, pieces token.value = [token.value]) :
    Shows (tokens.foldl (Layout.step unit) state) (written ++ tokens) := by
  induction tokens generalizing state written with
  | nil => simpa using h
  | cons token tokens ih =>
      have hstep := h.step hunit (htokens token (by simp))
      have hrest := ih hstep fun t ht => htokens t (by simp [ht])
      simpa using hrest

end Layout

/-- The pieces of a layout are the tokens that are laid out. -/
theorem pieces_layoutTokens {unit : List Char} (hunit : ∀ c ∈ unit, isBlank c = true)
    {tokens : List Token} (htokens : ∀ token ∈ tokens, pieces token.value = [token.value]) :
    pieces (layoutTokens unit tokens) = tokens.map Token.value := by
  have hshows := Layout.shows_start.foldl_step hunit htokens
  rw [layoutTokens, pieces, divide_trim]
  exact hshows.pieces_value

theorem pieces_layout (set : KeywordSet) {unit : List Char}
    (hunit : ∀ c ∈ unit, isBlank c = true) (text : List Char) :
    pieces (layout set unit text) = pieces text := by
  rw [layout, pieces_layoutTokens hunit fun _ => pieces_value_of_mem_tokenize,
    map_value_tokenize]

/-- The layout loses nothing: whatever the keywords are, and for every unit of indentation made of
blanks, the tokens of the laid-out text are the tokens of the text. -/
theorem tokenize_layout (set : KeywordSet) (unit : List Char)
    (hunit : ∀ c ∈ unit, isBlank c = true) (text : List Char) :
    tokenize set (layout set unit text) = tokenize set text := by
  apply tokenize_of_pieces_eq
  rw [pieces_layout set hunit, map_value_tokenize]

/-- A tab and a no-break space as the unit, and keywords with a mark and with no word at all. -/
theorem tokenize_layout_unusual :
    (∀ c ∈ ['\t', '\u00A0'], isBlank c = true) ∧
      tokenize (.ofTexts ["f(".toList, " ".toList, "in".toList])
          (layout (.ofTexts ["f(".toList, " ".toList, "in".toList]) ['\t', '\u00A0']
            "a)in,f((b ;)".toList) =
        tokenize (.ofTexts ["f(".toList, " ".toList, "in".toList]) "a)in,f((b ;)".toList := by
  have hunit : ∀ c ∈ ['\t', '\u00A0'], isBlank c = true := by
    simp [isBlank]
  exact ⟨hunit, tokenize_layout _ _ hunit _⟩

end SqlTidy
