/-
Module: SqlTidy.Proofs.Gaps
Purpose: The layout as a table: what stands between two neighbouring tokens is a function of their
  kinds and of the depth.
Main exports: TokenKind.depthAfter, TokenKind.trail, TokenKind.gap, joinTokens,
  joinAfter_append_cons, Layout.Writes, Layout.Writes.step, Layout.Writes.foldl_step,
  layoutTokens_eq_joinTokens, layoutTokens_spaces_eq_gaps, Style.format_eq_joinTokens
-/
import SqlTidy.Proofs.Formatting

namespace SqlTidy

open Text

/-!
The layout writes blanks after a token before it knows the next one, and takes them back where the
next one does not want them.  Here each gap is named at once, from the token before it, the token
after it and the depth between them.
-/

/-! ### The table -/

namespace TokenKind

/-- The depth after a token of the kind; it never falls below zero. -/
def depthAfter (depth : Nat) : TokenKind → Nat
  | openParen => depth + 1
  | closeParen => depth - 1
  | comma | semicolon | keyword | text => depth

/-- What a token of the kind leaves for the next one, at the depth after it. -/
def trail (unit : List Char) (depth : Nat) : TokenKind → List Char
  | openParen | comma => '\n' :: Layout.indentation unit depth
  | semicolon => ['\n']
  | closeParen => []
  | keyword | text => [' ']

/-- What stands between two tokens of the kinds, where `depth` is the depth after the first one. -/
def gap (unit : List Char) (depth : Nat) (kind : TokenKind) : TokenKind → List Char
  | openParen => [' ']
  | comma | semicolon => []
  | closeParen =>
      kind.trail unit depth ++ '\n' :: Layout.indentation unit (closeParen.depthAfter depth)
  | text => kind.trail unit depth
  | keyword =>
      kind.trail unit depth ++
        (if (kind.trail unit depth).getLast? == some '\n' then [] else ['\n']) ++
        Layout.indentation unit depth

end TokenKind

/-- The tokens that follow a token of a kind, each after its gap; `depth` is the depth after that
token. -/
def joinAfter (unit : List Char) (depth : Nat) (kind : TokenKind) : List Token → List Char
  | [] => []
  | token :: tokens =>
      kind.gap unit depth token.kind ++ token.value ++
        joinAfter unit (token.kind.depthAfter depth) token.kind tokens

/-- The values of the tokens with the gaps between neighbours; `depth` is the depth before them. -/
def joinTokens (unit : List Char) (depth : Nat) : List Token → List Char
  | [] => []
  | token :: tokens =>
      token.value ++ joinAfter unit (token.kind.depthAfter depth) token.kind tokens

/-- A token after others follows the last of them, at the depth that they leave. -/
theorem joinAfter_append_cons (unit : List Char) (depth : Nat) (kind : TokenKind)
    (tokens : List Token) (token : Token) (more : List Token) :
    joinAfter unit depth kind (tokens ++ token :: more) =
      joinAfter unit depth kind tokens ++
        (tokens.getLast?.elim kind Token.kind).gap unit
          ((tokens.map Token.kind).foldl TokenKind.depthAfter depth) token.kind ++
        (token.value ++ joinAfter unit
          (token.kind.depthAfter ((tokens.map Token.kind).foldl TokenKind.depthAfter depth))
          token.kind more) := by
  induction tokens generalizing depth kind with
  | nil => simp [joinAfter]
  | cons first tokens ih =>
      have hlast : (first :: tokens).getLast?.elim kind Token.kind =
          tokens.getLast?.elim first.kind Token.kind := by
        rw [List.getLast?_cons]
        cases tokens.getLast? <;> rfl
      rw [List.cons_append, joinAfter, ih, hlast]
      simp [joinAfter]

/-- The value of the token starts and ends with characters that are not blank. -/
def Token.isSolid (token : Token) : Bool :=
  token.value.head?.any (!isBlank ·) && token.value.getLast?.any (!isBlank ·)

/-! ### Texts between blanks -/

theorem Text.trimEnd_append_blanks {text tail : List Char}
    (hlast : ∃ c, text.getLast? = some c ∧ isBlank c = false)
    (htail : ∀ c ∈ tail, isBlank c = true) : trimEnd (text ++ tail) = text := by
  obtain ⟨c, hc, hblank⟩ := hlast
  obtain ⟨front, rfl⟩ := List.getLast?_eq_some_iff.1 hc
  have htail' : ∀ d ∈ tail.reverse, isBlank d = true := fun d hd => htail d (List.mem_reverse.1 hd)
  rw [trimEnd, List.reverse_append, List.dropWhile_append_of_pos htail']
  simp [hblank]

theorem Text.trim_between_blanks {lead text tail : List Char}
    (hlead : ∀ c ∈ lead, isBlank c = true)
    (hfirst : ∃ c, text.head? = some c ∧ isBlank c = false)
    (hlast : ∃ c, text.getLast? = some c ∧ isBlank c = false)
    (htail : ∀ c ∈ tail, isBlank c = true) : trim (lead ++ (text ++ tail)) = text := by
  have hstart : (text ++ tail).dropWhile isBlank = text ++ tail := by
    obtain ⟨c, hc, hblank⟩ := hfirst
    obtain ⟨rest, rfl⟩ := List.head?_eq_some_iff.1 hc
    simp [hblank]
  rw [trim, List.dropWhile_append_of_pos hlead, hstart]
  exact trimEnd_append_blanks hlast htail

theorem Token.exists_of_isSolid {token : Token} (h : token.isSolid = true) :
    (∃ c, token.value.head? = some c ∧ isBlank c = false) ∧
      ∃ c, token.value.getLast? = some c ∧ isBlank c = false := by
  simpa [isSolid, Option.any_eq_true] using h

theorem TokenKind.isBlank_of_mem_trail {unit : List Char} (hunit : ∀ c ∈ unit, isBlank c = true)
    (depth : Nat) (kind : TokenKind) : ∀ c ∈ kind.trail unit depth, isBlank c = true := by
  have hindent := Layout.isBlank_of_mem_indentation hunit depth
  cases kind with
  | openParen => exact List.forall_mem_cons.2 ⟨rfl, hindent⟩
  | comma => exact List.forall_mem_cons.2 ⟨rfl, hindent⟩
  | semicolon => exact List.forall_mem_cons.2 ⟨rfl, by simp⟩
  | closeParen => simp [trail]
  | keyword => exact List.forall_mem_cons.2 ⟨rfl, by simp⟩
  | text => exact List.forall_mem_cons.2 ⟨rfl, by simp⟩

/-! ### One step

After each token the state has written a text that ends with the token, and the trail of the token
after it.  The next step takes the trail back, or keeps it and adds to it; either way the gap of the
table comes out. -/

namespace Layout

variable {unit lead text : List Char} {state : Layout} {kind : TokenKind}

theorem depth_step (unit : List Char) (state : Layout) (token : Token) :
    (step unit state token).depth = token.kind.depthAfter state.depth := by
  cases token <;> rfl

theorem tail_eq_trail (unit : List Char) (state : Layout) (token : Token) :
    token.tail unit state = token.kind.trail unit (token.kind.depthAfter state.depth) := by
  cases token <;> rfl

/-- The state has written the text, with the trail of a token of the kind after it and with what the
first token has put before it. -/
structure Writes (unit lead : List Char) (state : Layout) (text : List Char) (kind : TokenKind) :
    Prop where
  value : state.buffer.value = lead ++ (text ++ kind.trail unit state.depth)
  solidEnd : ∃ c, text.getLast? = some c ∧ isBlank c = false
  filled : state.buffer.Filled

namespace Writes

theorem trimEnd_value (h : Writes unit lead state text kind)
    (hunit : ∀ c ∈ unit, isBlank c = true) : Text.trimEnd state.buffer.value = lead ++ text := by
  obtain ⟨c, hc, hblank⟩ := h.solidEnd
  have hlast : (lead ++ text).getLast? = some c := by
    rw [List.getLast?_append, hc]
    rfl
  rw [h.value, ← List.append_assoc]
  exact trimEnd_append_blanks ⟨c, hlast, hblank⟩
    (TokenKind.isBlank_of_mem_trail hunit state.depth kind)

/-- Whether a line has just started is decided by the trail, since a token does not end a line. -/
theorem atLineStart_eq (h : Writes unit lead state text kind) :
    state.buffer.atLineStart = ((kind.trail unit state.depth).getLast? == some '\n') := by
  obtain ⟨c, hc, hblank⟩ := h.solidEnd
  rw [Buffer.atLineStart_eq h.filled, h.value, List.getLast?_append, List.getLast?_append, hc]
  cases (kind.trail unit state.depth).getLast? with
  | some d => rfl
  | none =>
      have hne : c ≠ '\n' := by
        rintro rfl
        exact absurd hblank (by decide)
      simpa using hne

/-- What a step keeps of the text, together with what it puts before the token, adds the gap. -/
theorem kept_append_lead (h : Writes unit lead state text kind)
    (hunit : ∀ c ∈ unit, isBlank c = true) (token : Token) :
    (if token.trims then Text.trimEnd state.buffer.value else state.buffer.value) ++
        token.lead unit state =
      lead ++ (text ++ kind.gap unit state.depth token.kind) := by
  cases token with
  | openParen => simp [Token.trims, h.trimEnd_value hunit, Token.lead, Token.kind, TokenKind.gap]
  | comma => simp [Token.trims, h.trimEnd_value hunit, Token.lead, Token.kind, TokenKind.gap]
  | semicolon => simp [Token.trims, h.trimEnd_value hunit, Token.lead, Token.kind, TokenKind.gap]
  | closeParen =>
      simp [Token.trims, h.value, Token.lead, Token.kind, TokenKind.gap, TokenKind.depthAfter]
  | text word => simp [Token.trims, h.value, Token.lead, Token.kind, TokenKind.gap]
  | keyword word =>
      simp [Token.trims, h.value, Token.lead, Token.kind, TokenKind.gap, h.atLineStart_eq]

theorem step (h : Writes unit lead state text kind) (hunit : ∀ c ∈ unit, isBlank c = true)
    {token : Token} (htoken : token.isSolid = true) :
    Writes unit lead (Layout.step unit state token)
      (text ++ (kind.gap unit state.depth token.kind ++ token.value)) token.kind where
  value := by
    rw [value_step, ← List.append_assoc, h.kept_append_lead hunit, tail_eq_trail, depth_step]
    simp
  solidEnd := by
    obtain ⟨c, hc, hblank⟩ := (Token.exists_of_isSolid htoken).2
    exact ⟨c, by simp [List.getLast?_append, hc], hblank⟩
  filled := filled_step unit h.filled token

/-- The steps over a sequence of tokens write the tokens with their gaps. -/
theorem foldl_step (h : Writes unit lead state text kind) (hunit : ∀ c ∈ unit, isBlank c = true)
    {tokens : List Token} (htokens : ∀ token ∈ tokens, token.isSolid = true) :
    ∃ last, Writes unit lead (tokens.foldl (Layout.step unit) state)
      (text ++ joinAfter unit state.depth kind tokens) last := by
  induction tokens generalizing state text kind with
  | nil => exact ⟨kind, by simpa [joinAfter] using h⟩
  | cons token tokens ih =>
      have hstep := h.step hunit (htokens token List.mem_cons_self)
      obtain ⟨last, hlast⟩ := ih hstep fun other hother =>
        htokens other (List.mem_cons_of_mem _ hother)
      refine ⟨last, ?_⟩
      rw [depth_step] at hlast
      simpa [joinAfter] using hlast

end Writes

/-- The first token finds nothing before it. -/
theorem writes_first (unit : List Char) {token : Token} (htoken : token.isSolid = true) :
    Writes unit (token.lead unit start) (step unit start token) token.value token.kind where
  value := by
    have hempty : start.buffer.value = [] := rfl
    have htrim : Text.trimEnd [] = [] := rfl
    rw [value_step, hempty, htrim, ite_self, List.nil_append, tail_eq_trail, depth_step]
  solidEnd := (Token.exists_of_isSolid htoken).2
  filled := filled_step unit Buffer.filled_empty token

end Layout

/-! ### The whole text -/

/-- With any unit made of blanks, the layout joins the tokens with the gaps of the table. -/
theorem layoutTokens_eq_joinTokens {unit : List Char} (hunit : ∀ c ∈ unit, isBlank c = true)
    {tokens : List Token} (htokens : ∀ token ∈ tokens, token.isSolid = true) :
    layoutTokens unit tokens = joinTokens unit 0 tokens := by
  cases tokens with
  | nil => rfl
  | cons token tokens =>
      have htoken := htokens token List.mem_cons_self
      obtain ⟨⟨c, hc, hblank⟩, _⟩ := Token.exists_of_isSolid htoken
      obtain ⟨last, hwrites⟩ := (Layout.writes_first unit htoken).foldl_step hunit
        fun other hother => htokens other (List.mem_cons_of_mem _ hother)
      rw [Layout.depth_step] at hwrites
      have hfirst : (joinTokens unit 0 (token :: tokens)).head? = some c := by
        rw [joinTokens, List.head?_append, hc]
        rfl
      rw [layoutTokens, List.foldl_cons, hwrites.value]
      exact trim_between_blanks (Layout.isBlank_of_mem_lead hunit Layout.start token)
        ⟨c, hfirst, hblank⟩ hwrites.solidEnd (TokenKind.isBlank_of_mem_trail hunit _ last)

/-- The layout is a table of gaps.  For every width of the indentation, the text laid out is the
values of the tokens with the gap of `TokenKind.gap` between neighbours, which depends on the two
kinds and on the depth between them alone; nothing stands before the first token or after the last
one. -/
theorem layoutTokens_spaces_eq_gaps (width : Nat) (tokens : List Token)
    (htokens : ∀ token ∈ tokens, token.isSolid = true) :
    layoutTokens (List.replicate width ' ') tokens =
      joinTokens (List.replicate width ' ') 0 tokens := by
  refine layoutTokens_eq_joinTokens ?_ htokens
  intro c hc
  rw [List.eq_of_mem_replicate hc]
  rfl

/-- All kinds of tokens, a keyword after a parenthesis at a depth and after a comma at none, and a
word with a line break in it. -/
theorem layoutTokens_spaces_eq_gaps_nested :
    (∀ token ∈ [Token.keyword "IN".toList, .openParen, .keyword "SELECT".toList,
        .text "a\nb".toList, .closeParen, .comma, .keyword "AS".toList, .closeParen, .semicolon,
        .text "c".toList], token.isSolid = true) ∧
      layoutTokens (List.replicate 2 ' ') [.keyword "IN".toList, .openParen,
          .keyword "SELECT".toList, .text "a\nb".toList, .closeParen, .comma, .keyword "AS".toList,
          .closeParen, .semicolon, .text "c".toList] =
        "IN (\n  \n  SELECT a\nb \n),\nAS \n);\nc".toList := by
  have htokens : ∀ token ∈ [Token.keyword "IN".toList, .openParen, .keyword "SELECT".toList,
      .text "a\nb".toList, .closeParen, .comma, .keyword "AS".toList, .closeParen, .semicolon,
      .text "c".toList], token.isSolid = true := by
    decide +kernel
  refine ⟨htokens, (layoutTokens_spaces_eq_gaps 2 _ htokens).trans ?_⟩
  decide +kernel

theorem isSolid_of_mem_tokenize {set : KeywordSet} {text : List Char} {token : Token}
    (h : token ∈ tokenize set text) : token.isSolid = true := by
  obtain ⟨piece, hpiece, rfl⟩ := List.mem_map.1 h
  obtain ⟨hne, hblank⟩ := not_blank_of_mem_pieces hpiece
  have hfirst := hblank _ (List.head_mem hne)
  have hlast := hblank _ (List.getLast_mem hne)
  simp [Token.isSolid, List.head?_eq_some_head hne, List.getLast?_eq_some_getLast hne, hfirst,
    hlast]

/-- A formatted query is the tokens of the normalized query with the gaps of the table. -/
theorem Style.format_eq_joinTokens (style : Style) (query : List Char) :
    style.format query =
      joinTokens style.indentUnit 0 (tokenize style.keywords (style.normalize query)) :=
  layoutTokens_eq_joinTokens style.isBlank_of_mem_indentUnit fun _ => isSolid_of_mem_tokenize

end SqlTidy
