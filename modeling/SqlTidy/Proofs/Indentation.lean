/-
Module: SqlTidy.Proofs.Indentation
Purpose: Keywords and closing parentheses are indented by the parentheses that are really open.
Main exports: openParens, length_openParens, TokenAt, exists_tokenAt, TokenAt.before_eq,
  TokenKind.gap_keyword, lastLine_leadOf, format_indents_by_nesting
-/
import SqlTidy.Proofs.Batches
import SqlTidy.Proofs.Lines

namespace SqlTidy

open Text
open Json (Value)

/-!
The layout knows how many parentheses are open, and never which.  Matching them with a stack gives
the same number, also where closing parentheses have no partner.  What is then left to show is that
the indentation written for a token is still there, and is alone on its line, when the text is done:
a place is found in the final text from its tokens, not from the steps that wrote it.
-/

/-! ### Matching parentheses -/

/-- Reads one more token with its place.  An opening parenthesis is put on the stack, and a closing
one takes the last one off that is still there; with none there, it is ignored. -/
def matchParens (stack : List Nat) : Token × Nat → List Nat
  | (.openParen, place) => place :: stack
  | (.closeParen, _) => stack.tail
  | _ => stack

/-- The places of the opening parentheses that no closing one has closed, the innermost first. -/
def openParens (tokens : List Token) : List Nat :=
  tokens.zipIdx.foldl matchParens []

theorem length_matchParens (stack : List Nat) (token : Token) (place : Nat) :
    (matchParens stack (token, place)).length = token.kind.depthAfter stack.length := by
  cases token with
  | closeParen => exact List.length_tail
  | openParen | comma | semicolon | keyword | text => rfl

theorem length_foldl_matchParens (tokens : List Token) (stack : List Nat) (place : Nat) :
    ((tokens.zipIdx place).foldl matchParens stack).length =
      (tokens.map Token.kind).foldl TokenKind.depthAfter stack.length := by
  induction tokens generalizing stack place with
  | nil => rfl
  | cons token tokens ih =>
      rw [List.zipIdx_cons, List.foldl_cons, ih, length_matchParens]
      rfl

/-- The depth that is never counted below zero is the number of parentheses still open. -/
theorem length_openParens (tokens : List Token) :
    (openParens tokens).length = closingDepth tokens :=
  length_foldl_matchParens tokens [] 0

/-! ### Places of tokens in a text -/

/-- The token stands in the text between the two others: what comes before it has the tokens before
it, and what comes after it has the tokens after it. -/
structure TokenAt (set : KeywordSet) (text before : List Char) (token : Token)
    (after : List Char) : Prop where
  text_eq : text = before ++ (token.value ++ after)
  tokens_eq : tokenize set text = tokenize set before ++ token :: tokenize set after

/-- Every token of a text stands in it somewhere. -/
theorem exists_tokenAt {set : KeywordSet} {text : List Char} {index : Nat} {token : Token}
    (h : (tokenize set text)[index]? = some token) :
    ∃ before after, TokenAt set text before token after ∧
      (tokenize set before).length = index := by
  rw [tokenize, List.getElem?_map] at h
  obtain ⟨piece, hpiece, rfl⟩ := Option.map_eq_some_iff.1 h
  obtain ⟨hlt, hget⟩ := List.getElem?_eq_some_iff.1 hpiece
  have hsplit : pieces text =
      (pieces text).take index ++ piece :: (pieces text).drop (index + 1) := by
    rw [← hget, ← List.drop_eq_getElem_cons hlt, List.take_append_drop]
  obtain ⟨before, after, htext, hbefore, hafter⟩ := exists_place_of_divide_eq hsplit
  have hbefore' : pieces before = (pieces text).take index := hbefore
  have hafter' : pieces after = (pieces text).drop (index + 1) := hafter
  refine ⟨before, after, ⟨by simpa using htext, ?_⟩, ?_⟩
  · rw [tokenize, hsplit, List.map_append, List.map_cons, tokenize, tokenize, hbefore', hafter']
  · rw [tokenize, List.length_map, hbefore', List.length_take]
    exact min_eq_left hlt.le

/-- The characters of the tokens of a text are its characters that are not blank. -/
theorem flatten_map_value_tokenize (set : KeywordSet) (text : List Char) :
    ((tokenize set text).map Token.value).flatten = text.filter (!isBlank ·) := by
  rw [map_value_tokenize]
  exact flatten_divide text

/-- Two ways to cut a text before characters that are not blank are the same, if as much that is not
blank comes before. -/
theorem eq_of_append_eq_append {before other after rest : List Char}
    (h : before ++ after = other ++ rest)
    (hsolid : before.filter (!isBlank ·) = other.filter (!isBlank ·))
    (hafter : after.head?.any (!isBlank ·) = true) (hrest : rest.head?.any (!isBlank ·) = true) :
    before = other := by
  -- A character between the two cuts would be the first one after the earlier cut.
  have hnone : ∀ {between tail : List Char},
      (between ++ tail).head?.any (!isBlank ·) = true →
        between.filter (!isBlank ·) = [] → between = [] := by
    intro between tail hhead hfilter
    cases between with
    | nil => rfl
    | cons c between =>
        have hc : isBlank c = false := by simpa using hhead
        simp [hc] at hfilter
  rcases List.append_eq_append_iff.1 h with ⟨between, rfl, rfl⟩ | ⟨between, rfl, rfl⟩
  · have hempty : between.filter (!isBlank ·) = [] := by simpa using hsolid
    simp [hnone hafter hempty]
  · have hempty : between.filter (!isBlank ·) = [] := by simpa using hsolid
    simp [hnone hrest hempty]

/-! ### What the layout puts before a token -/

/-- The joined tokens before a token, with the gap that follows them. -/
def leadOf (unit : List Char) (tokens : List Token) (kind : TokenKind) : List Char :=
  joinTokens unit 0 tokens ++
    (tokens.getLast?.elim [] fun last => last.kind.gap unit (closingDepth tokens) kind)

theorem joinTokens_append_cons (unit : List Char) (tokens : List Token) (token : Token)
    (more : List Token) :
    joinTokens unit 0 (tokens ++ token :: more) =
      leadOf unit tokens token.kind ++
        (token.value ++
          joinAfter unit (token.kind.depthAfter (closingDepth tokens)) token.kind more) := by
  cases tokens with
  | nil => rfl
  | cons first tokens =>
      have hlast : (first :: tokens).getLast? = some (tokens.getLast?.getD first) :=
        List.getLast?_cons
      have hkind : (tokens.getLast?.getD first).kind =
          tokens.getLast?.elim first.kind Token.kind := by
        cases tokens.getLast? <;> rfl
      rw [List.cons_append, joinTokens, joinAfter_append_cons, leadOf, joinTokens, hlast,
        Option.elim_some, hkind]
      simp [closingDepth]

section

variable {unit : List Char} (hunit : ∀ c ∈ unit, isBlank c = true)
include hunit

theorem filter_gap (depth : Nat) (kind next : TokenKind) :
    (kind.gap unit depth next).filter (!isBlank ·) = [] := by
  apply List.filter_eq_nil_iff.2
  intro c hc
  rcases TokenKind.mem_gap hc with rfl | rfl | hc
  · decide
  · decide
  · simp [hunit c hc]

theorem filter_joinAfter {tokens : List Token} (h : ∀ token ∈ tokens, token.Unbroken)
    (depth : Nat) (kind : TokenKind) :
    (joinAfter unit depth kind tokens).filter (!isBlank ·) =
      (tokens.map Token.value).flatten := by
  induction tokens generalizing depth kind with
  | nil => rfl
  | cons token tokens ih =>
      have hvalue : token.value.filter (!isBlank ·) = token.value := by
        apply List.filter_eq_self.2
        intro c hc
        simp [(h token List.mem_cons_self).notBlank c hc]
      have hrest := ih fun other hother => h other (List.mem_cons_of_mem _ hother)
      simp [joinAfter, filter_gap hunit, hvalue, hrest]

/-- What stands before a token has the characters of the tokens before it, and blanks. -/
theorem filter_leadOf {tokens : List Token} (h : ∀ token ∈ tokens, token.Unbroken)
    (kind : TokenKind) :
    (leadOf unit tokens kind).filter (!isBlank ·) = (tokens.map Token.value).flatten := by
  have hgap : (tokens.getLast?.elim [] fun last =>
      last.kind.gap unit (closingDepth tokens) kind).filter (!isBlank ·) = [] := by
    cases tokens.getLast? with
    | none => rfl
    | some last => exact filter_gap hunit _ _ _
  rw [leadOf, List.filter_append, hgap, List.append_nil]
  cases tokens with
  | nil => rfl
  | cons token tokens =>
      have hjoin := filter_joinAfter hunit h 0 .text
      rw [joinAfter, List.filter_append, List.filter_append, filter_gap hunit] at hjoin
      rw [joinTokens, List.filter_append]
      exact hjoin

/-- In a text that the layout has joined, what stands before a token is what was put there. -/
theorem TokenAt.before_eq {set : KeywordSet} {text before after : List Char} {token : Token}
    (h : TokenAt set text before token after)
    (htext : text = joinTokens unit 0 (tokenize set text)) :
    before = leadOf unit (tokenize set before) token.kind := by
  have hmem : token ∈ tokenize set text := by
    rw [h.tokens_eq]
    exact List.mem_append_right _ List.mem_cons_self
  have hstart : ∀ tail, (token.value ++ tail).head?.any (!isBlank ·) = true := by
    obtain ⟨⟨c, hc, hblank⟩, _⟩ := Token.exists_of_isSolid (isSolid_of_mem_tokenize hmem)
    intro tail
    rw [List.head?_append, hc]
    simp [hblank]
  have hjoined : before ++ (token.value ++ after) =
      leadOf unit (tokenize set before) token.kind ++ (token.value ++
        joinAfter unit (token.kind.depthAfter (closingDepth (tokenize set before))) token.kind
          (tokenize set after)) := by
    rw [← h.text_eq, ← joinTokens_append_cons, ← h.tokens_eq]
    exact htext
  apply eq_of_append_eq_append hjoined _ (hstart _) (hstart _)
  rw [filter_leadOf hunit fun _ => unbroken_of_mem_tokenize, flatten_map_value_tokenize]

end

/-! ### Lines -/

/-- What stands between the last line break and the end of a text, or the whole text if it has no
line break. -/
def Text.lastLine (text : List Char) : List Char :=
  text.rtakeWhile (· != '\n')

theorem Text.lastLine_append_newline (front : List Char) {line : List Char}
    (hline : '\n' ∉ line) : lastLine (front ++ '\n' :: line) = line := by
  have hpos : ∀ c ∈ line.reverse, (c != '\n') = true := by
    intro c hc
    apply bne_iff_ne.2
    rintro rfl
    exact hline (List.mem_reverse.1 hc)
  rw [lastLine, List.rtakeWhile, List.reverse_append, List.reverse_cons, List.append_assoc,
    List.takeWhile_append_of_pos hpos]
  simp

/-- A keyword comes after a line break and the indentation of its depth, whether the break was there
or not. -/
theorem TokenKind.gap_keyword (unit : List Char) (depth : Nat) (kind : TokenKind) :
    ∃ front, kind.gap unit depth .keyword = front ++ '\n' :: Layout.indentation unit depth := by
  by_cases hlast : (kind.trail unit depth).getLast? = some '\n'
  · obtain ⟨front, hfront⟩ := List.getLast?_eq_some_iff.1 hlast
    refine ⟨front, ?_⟩
    rw [gap, if_pos (beq_iff_eq.2 hlast), hfront]
    simp
  · refine ⟨kind.trail unit depth, ?_⟩
    rw [gap, if_neg (mt beq_iff_eq.1 hlast)]
    simp

/-- The kinds of tokens that start their lines. -/
def TokenKind.startsLine : TokenKind → Bool
  | keyword | closeParen => true
  | openParen | comma | semicolon | text => false

/-- A token that starts its line has the indentation of a depth before it: a keyword that of the
depth before it, and a closing parenthesis that of the depth after it. -/
theorem lastLine_leadOf (width : Nat) (tokens : List Token) {kind : TokenKind}
    (hkind : kind.startsLine = true) :
    lastLine (leadOf (List.replicate width ' ') tokens kind) =
      List.replicate (width * kind.depthAfter (closingDepth tokens)) ' ' := by
  have hspaces : ∀ depth, '\n' ∉ List.replicate (width * depth) ' ' := by
    intro depth hmem
    exact absurd (List.eq_of_mem_replicate hmem) (by decide)
  -- The first token has nothing before it, and no parenthesis is open there.
  rcases List.eq_nil_or_concat' tokens with rfl | ⟨front, last, rfl⟩
  · cases kind with
    | keyword | closeParen => rfl
    | openParen | comma | semicolon | text => simp [TokenKind.startsLine] at hkind
  · generalize hdepth : closingDepth (front ++ [last]) = depth
    have hgap : ∃ start, last.kind.gap (List.replicate width ' ') depth kind =
        start ++ '\n' :: List.replicate (width * kind.depthAfter depth) ' ' := by
      cases kind with
      | keyword =>
          rw [← Layout.indentation_spaces]
          exact TokenKind.gap_keyword _ depth last.kind
      | closeParen =>
          rw [← Layout.indentation_spaces]
          exact ⟨_, rfl⟩
      | openParen | comma | semicolon | text => simp [TokenKind.startsLine] at hkind
    obtain ⟨start, hstart⟩ := hgap
    have hlead : leadOf (List.replicate width ' ') (front ++ [last]) kind =
        (joinTokens (List.replicate width ' ') 0 (front ++ [last]) ++ start) ++
          '\n' :: List.replicate (width * kind.depthAfter depth) ' ' := by
      rw [leadOf, hdepth, List.getLast?_concat, Option.elim_some, hstart, List.append_assoc]
    rw [hlead]
    exact lastLine_append_newline _ (hspaces _)

theorem closingDepth_concat (tokens : List Token) (token : Token) :
    closingDepth (tokens ++ [token]) = token.kind.depthAfter (closingDepth tokens) := by
  simp [closingDepth]

/-- Keywords and closing parentheses are indented by the real nesting.  Every token of a formatted
query has a place in it, and wherever a keyword stands, the line before it is the indent size times
the number of parentheses that are open before it, in spaces; for a closing parenthesis it is the
same with the parentheses that are open after it.  Which ones are open is decided by matching each
closing parenthesis with the last one still open, and by ignoring it if there is none. -/
theorem format_indents_by_nesting (set : KeywordSet) (keywordCase : Value) (size : Nat)
    (hsize : size < 2 ^ 31) (query : List Char) :
    ∃ out, Options.format ⟨.int size, keywordCase, some set⟩ query = .ok out ∧
      (∀ index token, (tokenize set out)[index]? = some token →
        ∃ before after, TokenAt set out before token after ∧
          (tokenize set before).length = index) ∧
      ∀ before token after, TokenAt set out before token after →
        (token.kind = .keyword → lastLine before =
          List.replicate (size * (openParens (tokenize set before)).length) ' ') ∧
        (token.kind = .closeParen → lastLine before =
          List.replicate (size * (openParens (tokenize set before ++ [token])).length) ' ') := by
  have hsize' : (size : Int) < 2 ^ 31 := by exact_mod_cast hsize
  refine ⟨_, Options.format_eq rfl rfl hsize' query, fun _ _ => exists_tokenAt, ?_⟩
  intro before token after hat
  generalize hstyle : Style.mk (size : Int).toNat (Options.casingOf keywordCase) set = style at hat
  have hunit : style.indentUnit = List.replicate size ' ' := by
    rw [← hstyle]
    rfl
  have hkeywords : style.keywords = set := by rw [← hstyle]
  have hjoined : style.format query =
      joinTokens style.indentUnit 0 (tokenize set (style.format query)) := by
    rw [← hkeywords, tokenize_of_pieces_eq, ← Style.format_eq_joinTokens]
    rw [Style.pieces_format, map_value_tokenize]
  have hbefore := hat.before_eq style.isBlank_of_mem_indentUnit hjoined
  rw [hunit] at hbefore
  have hline : token.kind.startsLine = true → lastLine before =
      List.replicate (size * token.kind.depthAfter (closingDepth (tokenize set before))) ' ' := by
    intro hstarts
    exact (congrArg lastLine hbefore).trans (lastLine_leadOf size _ hstarts)
  constructor
  · intro hkind
    rw [hline (by rw [hkind]; rfl), hkind, length_openParens]
    rfl
  · intro hkind
    rw [hline (by rw [hkind]; rfl), length_openParens, closingDepth_concat]

/-- A closing parenthesis without a partner, and then two that are opened before one is closed: the
keyword after them has one level of indentation before it. -/
theorem format_indents_by_nesting_unbalanced :
    3 < 2 ^ 31 ∧ ∃ out before after,
      Options.format ⟨.int (3 : Nat), .ofString "upper", some .standard⟩
          ")a((select b)from".toList = .ok out ∧
        TokenAt .standard out before (.keyword "FROM".toList) after ∧
        lastLine before = List.replicate (3 * 1) ' ' := by
  have hsize : 3 < 2 ^ 31 := by decide
  obtain ⟨out, hout, _, hlines⟩ :=
    format_indents_by_nesting .standard (.ofString "upper") 3 hsize ")a((select b)from".toList
  have hformat := @Options.format_eq ⟨.int (3 : Nat), .ofString "upper", some .standard⟩
    .standard 3 rfl rfl (by decide) ")a((select b)from".toList
  have htext : out = ")a ( (\n      \n      SELECT b \n   )\n   FROM".toList := by
    rw [hout, Except.ok.injEq] at hformat
    rw [hformat]
    decide +kernel
  have hat : TokenAt .standard out ")a ( (\n      \n      SELECT b \n   )\n   ".toList
      (.keyword "FROM".toList) [] := by
    rw [htext]
    exact ⟨by decide, by decide +kernel⟩
  refine ⟨hsize, out, _, _, hout, hat, ?_⟩
  have hopen : (openParens (tokenize .standard
      ")a ( (\n      \n      SELECT b \n   )\n   ".toList)).length = 1 := by
    decide +kernel
  have hline := (hlines _ _ _ hat).1 rfl
  rwa [hopen] at hline

end SqlTidy
