/-
Module: SqlTidy.Proofs.Lines
Purpose: The lines of a formatted query, and what the width of the indentation decides about them.
Main exports: Line, Block, TokenKind.gapBreaks, TokenKind.gap_spaces, joinTokens_spaces,
  Style.splitOn_format, Style.eq_of_isBlank_of_mem_format, format_lines_scale
-/
import SqlTidy.Proofs.Gaps

namespace SqlTidy

open Text
open Json (Value)

/-!
A gap of the table may put a space at the end of a line, and it may start lines.  Whether a keyword
starts one more line depends on the indentation before it, which hides the line break that it
follows.  So the lines are not the same with and without indentation; but as soon as a level has a
space, it does not matter how many it has.
-/

/-- A line: the depth of its indentation, and what stands after the indentation. -/
structure Line where
  depth : Nat
  content : List Char

namespace Line

/-- The line with a number of spaces for each level. -/
def text (width : Nat) (line : Line) : List Char :=
  List.replicate (width * line.depth) ' ' ++ line.content

/-- What stands after the indentation is on one line and does not go on with a space. -/
structure Trimmed (line : Line) : Prop where
  oneLine : '\n' ∉ line.content
  noSpace : line.content.head? ≠ some ' '

theorem newline_not_mem_text {line : Line} (h : line.Trimmed) (width : Nat) :
    '\n' ∉ line.text width := by
  intro hmem
  rcases List.mem_append.1 hmem with hindent | hcontent
  · exact absurd (List.eq_of_mem_replicate hindent) (by decide)
  · exact h.oneLine hcontent

end Line

/-- The end of a line, and the lines after it. -/
structure Block where
  first : List Char
  later : List Line

namespace Block

/-- The block with a number of spaces for each level. -/
def text (width : Nat) (block : Block) : List Char :=
  block.first ++ block.later.flatMap fun line => '\n' :: line.text width

/-- The block after a text on the same line. -/
def prepend (before : List Char) (block : Block) : Block :=
  ⟨before ++ block.first, block.later⟩

/-- The block after line breaks, each with the depth of the line that it starts. -/
def afterBreaks : List Nat → Block → Block
  | [], block => block
  | depth :: depths, block =>
      ⟨[], ⟨depth, (afterBreaks depths block).first⟩ :: (afterBreaks depths block).later⟩

end Block

/-- Line breaks with the indentation of the lines that they start. -/
def breakLines (width : Nat) (depths : List Nat) : List Char :=
  depths.flatMap fun depth => '\n' :: List.replicate (width * depth) ' '

/-! ### Gaps as line breaks -/

namespace TokenKind

/-- The space that a token of the kind leaves for the next one. -/
def trailSpace : TokenKind → List Char
  | keyword | text => [' ']
  | openParen | closeParen | comma | semicolon => []

/-- The depths of the lines that a token of the kind starts for the next one. -/
def trailBreaks (depth : Nat) : TokenKind → List Nat
  | openParen | comma => [depth]
  | semicolon => [0]
  | closeParen | keyword | text => []

/-- The space in the gap between two tokens of the kinds. -/
def gapSpace (kind : TokenKind) : TokenKind → List Char
  | openParen => [' ']
  | comma | semicolon => []
  | closeParen | keyword | text => kind.trailSpace

/-- The depths of the lines that the gap between two tokens of the kinds starts.  A keyword takes
the line that has just been started if that line is not indented yet. -/
def gapBreaks (depth : Nat) (kind : TokenKind) : TokenKind → List Nat
  | openParen | comma | semicolon => []
  | closeParen => kind.trailBreaks depth ++ [closeParen.depthAfter depth]
  | text => kind.trailBreaks depth
  | keyword =>
      if kind.trailBreaks depth = [0] then [depth] else kind.trailBreaks depth ++ [depth]

end TokenKind

theorem Layout.indentation_spaces (width depth : Nat) :
    indentation (List.replicate width ' ') depth = List.replicate (width * depth) ' ' := by
  rw [indentation, List.flatten_replicate_replicate, Nat.mul_comm]

namespace TokenKind

theorem trail_spaces (width depth : Nat) (kind : TokenKind) :
    kind.trail (List.replicate width ' ') depth =
      kind.trailSpace ++ breakLines width (kind.trailBreaks depth) := by
  cases kind <;> simp [trail, trailSpace, trailBreaks, breakLines, Layout.indentation_spaces]

theorem newline_not_mem_trailSpace (kind : TokenKind) : '\n' ∉ kind.trailSpace := by
  cases kind <;> simp [trailSpace]

theorem newline_not_mem_gapSpace (kind next : TokenKind) : '\n' ∉ kind.gapSpace next := by
  cases next <;> simp [gapSpace, newline_not_mem_trailSpace]

/-- With at least one space for each level, a trail ends with a line break exactly if it starts a
line at no depth. -/
theorem getLast?_trail_spaces {width : Nat} (hwidth : 0 < width) (depth : Nat) (kind : TokenKind) :
    (kind.trail (List.replicate width ' ') depth).getLast? = some '\n' ↔
      kind.trailBreaks depth = [0] := by
  have hindented : ('\n' :: List.replicate (width * depth) ' ').getLast? = some '\n' ↔
      [depth] = [0] := by
    cases depth with
    | zero => simp
    | succ depth =>
        have hpos : width * (depth + 1) ≠ 0 := by positivity
        simp [List.getLast?_cons, List.getLast?_replicate, hpos]
  cases kind with
  | openParen => simpa [trail, trailBreaks, Layout.indentation_spaces] using hindented
  | comma => simpa [trail, trailBreaks, Layout.indentation_spaces] using hindented
  | semicolon => simp [trail, trailBreaks]
  | closeParen => simp [trail, trailBreaks]
  | keyword => simp [trail, trailBreaks]
  | text => simp [trail, trailBreaks]

/-- With at least one space for each level, a gap is a space or nothing, and then line breaks that
do not depend on the width. -/
theorem gap_spaces {width : Nat} (hwidth : 0 < width) (depth : Nat) (kind next : TokenKind) :
    kind.gap (List.replicate width ' ') depth next =
      kind.gapSpace next ++ breakLines width (kind.gapBreaks depth next) := by
  cases next with
  | openParen => simp [gap, gapSpace, gapBreaks, breakLines]
  | comma => simp [gap, gapSpace, gapBreaks, breakLines]
  | semicolon => simp [gap, gapSpace, gapBreaks, breakLines]
  | text => exact trail_spaces width depth kind
  | closeParen =>
      rw [gap, trail_spaces, Layout.indentation_spaces]
      simp [gapSpace, gapBreaks, breakLines]
  | keyword =>
      have hlast := getLast?_trail_spaces hwidth depth kind
      rw [gap, Layout.indentation_spaces]
      by_cases hbreaks : kind.trailBreaks depth = [0]
      · -- The indentation of the keyword goes to the line that its trail has started.
        rw [if_pos (beq_iff_eq.2 (hlast.2 hbreaks)), trail_spaces]
        simp [gapSpace, gapBreaks, hbreaks, breakLines]
      · rw [if_neg (mt beq_iff_eq.1 (mt hlast.1 hbreaks)), trail_spaces]
        simp [gapSpace, gapBreaks, hbreaks, breakLines]

end TokenKind

/-! ### The text as a block -/

namespace Block

theorem text_prepend (width : Nat) (before : List Char) (block : Block) :
    (block.prepend before).text width = before ++ block.text width := by
  simp [text, prepend]

theorem text_afterBreaks (width : Nat) (depths : List Nat) (block : Block) :
    (block.afterBreaks depths).text width = breakLines width depths ++ block.text width := by
  induction depths with
  | nil => rfl
  | cons depth depths ih =>
      have hcons : (block.afterBreaks (depth :: depths)).text width =
          '\n' :: List.replicate (width * depth) ' ' ++ (block.afterBreaks depths).text width := by
        simp [text, afterBreaks, Line.text]
      rw [hcons, ih]
      simp [breakLines]

/-- The lines of the block hold no line break and do not go on with a space. -/
structure Clean (block : Block) : Prop where
  first : '\n' ∉ block.first
  later : ∀ line ∈ block.later, line.Trimmed

theorem Clean.prepend {block : Block} (h : block.Clean) {before : List Char}
    (hbefore : '\n' ∉ before) : (block.prepend before).Clean where
  first := by simpa [Block.prepend, hbefore] using h.first
  later := h.later

theorem Clean.afterBreaks {block : Block} (h : block.Clean) (hhead : block.first.head? ≠ some ' ')
    (depths : List Nat) :
    (block.afterBreaks depths).Clean ∧ (block.afterBreaks depths).first.head? ≠ some ' ' := by
  induction depths with
  | nil => exact ⟨h, hhead⟩
  | cons depth depths ih =>
      obtain ⟨hclean, hspace⟩ := ih
      refine ⟨⟨by simp [Block.afterBreaks], ?_⟩, by simp [Block.afterBreaks]⟩
      intro line hline
      rcases List.mem_cons.1 hline with rfl | hline
      · exact ⟨hclean.first, hspace⟩
      · exact hclean.later line hline

/-- Splitting the text of a clean block at line breaks gives its lines. -/
theorem Clean.splitOn_text {block : Block} (h : block.Clean) (width : Nat) :
    (block.text width).splitOn '\n' = block.first :: block.later.map (Line.text width) := by
  obtain ⟨first, later⟩ := block
  induction later generalizing first with
  | nil => simpa [text] using List.splitOn_eq_singleton h.first
  | cons line later ih =>
      have hline := h.later line List.mem_cons_self
      have hrest := ih (line.text width) {
        first := line.newline_not_mem_text hline width
        later := fun other hother => h.later other (List.mem_cons_of_mem _ hother) }
      have htext : text width ⟨first, line :: later⟩ =
          first ++ '\n' :: text width ⟨line.text width, later⟩ := by
        simp [text]
      rw [htext, List.splitOn_append_cons_self_of_not_mem h.first, hrest]
      rfl

end Block

/-- The tokens that follow a token of a kind, as a block; `depth` is the depth after that token. -/
def blockAfter (depth : Nat) (kind : TokenKind) : List Token → Block
  | [] => ⟨[], []⟩
  | token :: tokens =>
      let rest := (blockAfter (token.kind.depthAfter depth) token.kind tokens).prepend token.value
      (rest.afterBreaks (kind.gapBreaks depth token.kind)).prepend (kind.gapSpace token.kind)

/-- The tokens as a block; `depth` is the depth before them. -/
def blockOf (depth : Nat) : List Token → Block
  | [] => ⟨[], []⟩
  | token :: tokens =>
      (blockAfter (token.kind.depthAfter depth) token.kind tokens).prepend token.value

theorem joinAfter_spaces {width : Nat} (hwidth : 0 < width) (depth : Nat) (kind : TokenKind)
    (tokens : List Token) :
    joinAfter (List.replicate width ' ') depth kind tokens =
      (blockAfter depth kind tokens).text width := by
  induction tokens generalizing depth kind with
  | nil => rfl
  | cons token tokens ih =>
      rw [joinAfter, blockAfter, TokenKind.gap_spaces hwidth, ih]
      simp [Block.text_prepend, Block.text_afterBreaks]

/-- With at least one space for each level, the tokens with their gaps are a block that does not
depend on the width. -/
theorem joinTokens_spaces {width : Nat} (hwidth : 0 < width) (depth : Nat) (tokens : List Token) :
    joinTokens (List.replicate width ' ') depth tokens = (blockOf depth tokens).text width := by
  cases tokens with
  | nil => rfl
  | cons token tokens =>
      rw [joinTokens, blockOf, joinAfter_spaces hwidth, Block.text_prepend]

/-! ### Clean lines -/

/-- The token has characters, and none of them is blank. -/
structure Token.Unbroken (token : Token) : Prop where
  nonempty : token.value ≠ []
  notBlank : ∀ c ∈ token.value, isBlank c = false

theorem unbroken_of_mem_tokenize {set : KeywordSet} {text : List Char} {token : Token}
    (h : token ∈ tokenize set text) : token.Unbroken := by
  obtain ⟨piece, hpiece, rfl⟩ := List.mem_map.1 h
  obtain ⟨hne, hblank⟩ := not_blank_of_mem_pieces hpiece
  exact ⟨by simpa using hne, by simpa using hblank⟩

theorem Token.Unbroken.newline_not_mem {token : Token} (h : token.Unbroken) :
    '\n' ∉ token.value := by
  intro hmem
  exact absurd (h.notBlank _ hmem) (by decide)

theorem Token.Unbroken.head?_append_ne {token : Token} (h : token.Unbroken) (after : List Char) :
    (token.value ++ after).head? ≠ some ' ' := by
  intro hhead
  rw [List.head?_append_of_ne_nil _ h.nonempty] at hhead
  exact absurd (h.notBlank _ (List.mem_of_mem_head? hhead)) (by decide)

theorem clean_blockAfter (depth : Nat) (kind : TokenKind) {tokens : List Token}
    (h : ∀ token ∈ tokens, token.Unbroken) : (blockAfter depth kind tokens).Clean := by
  induction tokens generalizing depth kind with
  | nil => exact ⟨by simp [blockAfter], by simp [blockAfter]⟩
  | cons token tokens ih =>
      have htoken := h token List.mem_cons_self
      have hrest := ih (token.kind.depthAfter depth) token.kind fun other hother =>
        h other (List.mem_cons_of_mem _ hother)
      have hline := hrest.prepend htoken.newline_not_mem
      obtain ⟨hclean, _⟩ := hline.afterBreaks (htoken.head?_append_ne _)
        (kind.gapBreaks depth token.kind)
      exact hclean.prepend (kind.newline_not_mem_gapSpace token.kind)

/-- The lines of a sequence of tokens.  The first one is not indented. -/
def linesOf (tokens : List Token) : List Line :=
  ⟨0, (blockOf 0 tokens).first⟩ :: (blockOf 0 tokens).later

theorem trimmed_of_mem_linesOf {tokens : List Token} (h : ∀ token ∈ tokens, token.Unbroken) :
    ∀ line ∈ linesOf tokens, line.Trimmed := by
  cases tokens with
  | nil =>
      intro line hline
      obtain rfl : line = ⟨0, []⟩ := by simpa [linesOf, blockOf] using hline
      exact ⟨by simp, by simp⟩
  | cons token tokens =>
      have htoken := h token List.mem_cons_self
      have hrest := clean_blockAfter (token.kind.depthAfter 0) token.kind fun other hother =>
        h other (List.mem_cons_of_mem _ hother)
      have hclean := hrest.prepend htoken.newline_not_mem
      intro line hline
      rcases List.mem_cons.1 hline with rfl | hline
      · exact ⟨hclean.first, htoken.head?_append_ne _⟩
      · exact hclean.later line hline

/-- The lines of a formatted query.  They are the same with every width of the indentation but
zero, and each is indented by the width times its depth. -/
theorem Style.splitOn_format {width : Nat} (hwidth : 0 < width) (casing : Casing)
    (set : KeywordSet) (query : List Char) :
    (Style.format ⟨width, casing, set⟩ query).splitOn '\n' =
      (linesOf (tokenize set (set.normalize casing query))).map (Line.text width) := by
  have hunbroken : ∀ token ∈ tokenize set (set.normalize casing query), token.Unbroken :=
    fun _ => unbroken_of_mem_tokenize
  have hclean : (blockOf 0 (tokenize set (set.normalize casing query))).Clean :=
    ⟨(trimmed_of_mem_linesOf hunbroken _ List.mem_cons_self).oneLine,
      fun line hline => trimmed_of_mem_linesOf hunbroken line (List.mem_cons_of_mem _ hline)⟩
  rw [Style.format_eq_joinTokens]
  calc (joinTokens (List.replicate width ' ') 0
        (tokenize set (set.normalize casing query))).splitOn '\n'
      = ((blockOf 0 (tokenize set (set.normalize casing query))).text width).splitOn '\n' := by
        rw [joinTokens_spaces hwidth]
    _ = (linesOf (tokenize set (set.normalize casing query))).map (Line.text width) := by
        rw [hclean.splitOn_text, linesOf, List.map_cons]
        rfl

/-! ### Blanks -/

theorem Layout.mem_of_mem_indentation {unit : List Char} {depth : Nat} {c : Char}
    (h : c ∈ Layout.indentation unit depth) : c ∈ unit := by
  obtain ⟨part, hpart, hc⟩ := List.mem_flatten.1 h
  rwa [List.eq_of_mem_replicate hpart] at hc

namespace TokenKind

variable {unit : List Char} {depth : Nat} {kind next : TokenKind} {c : Char}

theorem mem_trail (h : c ∈ kind.trail unit depth) : c = ' ' ∨ c = '\n' ∨ c ∈ unit := by
  cases kind with
  | openParen =>
      rcases List.mem_cons.1 h with rfl | h
      · simp
      · exact Or.inr (Or.inr (Layout.mem_of_mem_indentation h))
  | comma =>
      rcases List.mem_cons.1 h with rfl | h
      · simp
      · exact Or.inr (Or.inr (Layout.mem_of_mem_indentation h))
  | semicolon => exact Or.inr (Or.inl (by simpa [trail] using h))
  | closeParen => simp [trail] at h
  | keyword => exact Or.inl (by simpa [trail] using h)
  | text => exact Or.inl (by simpa [trail] using h)

/-- Between two tokens stand spaces, line breaks and units of indentation. -/
theorem mem_gap (h : c ∈ kind.gap unit depth next) : c = ' ' ∨ c = '\n' ∨ c ∈ unit := by
  cases next with
  | openParen => exact Or.inl (by simpa [gap] using h)
  | comma => simp [gap] at h
  | semicolon => simp [gap] at h
  | text => exact mem_trail h
  | closeParen =>
      rw [gap, List.mem_append, List.mem_cons] at h
      rcases h with h | rfl | h
      · exact mem_trail h
      · simp
      · exact Or.inr (Or.inr (Layout.mem_of_mem_indentation h))
  | keyword =>
      rw [gap, List.mem_append, List.mem_append] at h
      rcases h with (h | h) | h
      · exact mem_trail h
      · right
        left
        split at h
        · simp at h
        · simpa using h
      · exact Or.inr (Or.inr (Layout.mem_of_mem_indentation h))

end TokenKind

theorem mem_joinAfter {unit : List Char} {depth : Nat} {kind : TokenKind} {tokens : List Token}
    {c : Char} (h : c ∈ joinAfter unit depth kind tokens) :
    (∃ token ∈ tokens, c ∈ token.value) ∨ c = ' ' ∨ c = '\n' ∨ c ∈ unit := by
  induction tokens generalizing depth kind with
  | nil => simp [joinAfter] at h
  | cons token tokens ih =>
      rw [joinAfter, List.mem_append, List.mem_append] at h
      rcases h with (h | h) | h
      · exact Or.inr (TokenKind.mem_gap h)
      · exact Or.inl ⟨token, List.mem_cons_self, h⟩
      · rcases ih h with ⟨other, hother, hc⟩ | hblank
        · exact Or.inl ⟨other, List.mem_cons_of_mem _ hother, hc⟩
        · exact Or.inr hblank

/-- All blanks of a formatted query are spaces and line feeds. -/
theorem Style.eq_of_isBlank_of_mem_format {style : Style} {query : List Char} {c : Char}
    (hblank : isBlank c = true) (h : c ∈ style.format query) : c = ' ' ∨ c = '\n' := by
  have hvalue : ∀ token ∈ tokenize style.keywords (style.normalize query), c ∉ token.value := by
    intro token htoken hc
    rw [(unbroken_of_mem_tokenize htoken).notBlank c hc] at hblank
    simp at hblank
  rw [Style.format_eq_joinTokens] at h
  generalize tokenize style.keywords (style.normalize query) = tokens at h hvalue
  cases tokens with
  | nil => simp [joinTokens] at h
  | cons token tokens =>
      rcases List.mem_append.1 h with h | h
      · exact absurd h (hvalue token List.mem_cons_self)
      · rcases mem_joinAfter h with ⟨other, hother, hc⟩ | rfl | rfl | hunit
        · exact absurd hc (hvalue other (List.mem_cons_of_mem _ hother))
        · exact Or.inl rfl
        · exact Or.inr rfl
        · exact Or.inl (List.eq_of_mem_replicate hunit)

/-! ### Two widths -/

/-- The number of spaces at the start of a line. -/
def Text.leadingSpaces (line : List Char) : Nat :=
  (line.takeWhile (· == ' ')).length

/-- The line without the spaces at its start. -/
def Text.dropSpaces (line : List Char) : List Char :=
  line.dropWhile (· == ' ')

namespace Line

variable {line : Line}

theorem Trimmed.takeWhile_content (h : line.Trimmed) :
    line.content.takeWhile (· == ' ') = [] := by
  cases hcontent : line.content with
  | nil => rfl
  | cons c rest =>
      have hc : c ≠ ' ' := by simpa [hcontent] using h.noSpace
      simp [hc]

theorem Trimmed.dropWhile_content (h : line.Trimmed) :
    line.content.dropWhile (· == ' ') = line.content := by
  have hsplit := List.takeWhile_append_dropWhile (p := (· == ' ')) (l := line.content)
  rwa [h.takeWhile_content] at hsplit

theorem Trimmed.leadingSpaces_text (h : line.Trimmed) (width : Nat) :
    leadingSpaces (line.text width) = width * line.depth := by
  rw [leadingSpaces, text, List.takeWhile_append_of_pos (by simp), h.takeWhile_content]
  simp

theorem Trimmed.dropSpaces_text (h : line.Trimmed) (width : Nat) :
    dropSpaces (line.text width) = line.content := by
  rw [dropSpaces, text, List.dropWhile_append_of_pos (by simp), h.dropWhile_content]

end Line

/-- Any two positive indent sizes give the same lines, scaled.  The two outputs have equally many
lines, and lines at the same place are equal after their leading spaces, the numbers of which are as
the indent sizes.  This holds for every keyword set and whatever is asked for as the case of
keywords. -/
theorem format_lines_scale (set : KeywordSet) (keywordCase : Value) (size otherSize : Int)
    (hpos : 1 ≤ size) (hsize : size < 2 ^ 31) (hpos' : 1 ≤ otherSize) (hsize' : otherSize < 2 ^ 31)
    (query : List Char) :
    ∃ out out', Options.format ⟨.int size, keywordCase, some set⟩ query = .ok out ∧
      Options.format ⟨.int otherSize, keywordCase, some set⟩ query = .ok out' ∧
      List.Forall₂ (fun line line' =>
          dropSpaces line = dropSpaces line' ∧
            (leadingSpaces line : Int) * otherSize = leadingSpaces line' * size)
        (out.splitOn '\n') (out'.splitOn '\n') := by
  obtain ⟨width, rfl⟩ := Int.eq_ofNat_of_zero_le (a := size) (by omega)
  obtain ⟨otherWidth, rfl⟩ := Int.eq_ofNat_of_zero_le (a := otherSize) (by omega)
  refine ⟨_, _, Options.format_eq rfl rfl hsize query, Options.format_eq rfl rfl hsize' query, ?_⟩
  have hunbroken : ∀ token ∈ tokenize set (set.normalize (Options.casingOf keywordCase) query),
      token.Unbroken := fun _ => unbroken_of_mem_tokenize
  rw [Int.toNat_natCast, Int.toNat_natCast, Style.splitOn_format (by omega),
    Style.splitOn_format (by omega), List.forall₂_map_left_iff, List.forall₂_map_right_iff,
    List.forall₂_same]
  intro line hline
  have hline := trimmed_of_mem_linesOf hunbroken line hline
  rw [hline.dropSpaces_text, hline.dropSpaces_text, hline.leadingSpaces_text,
    hline.leadingSpaces_text]
  refine ⟨rfl, ?_⟩
  push_cast
  ring

/-- One space and three spaces, on keywords after a parenthesis and after commas at two depths, and
with a keyword of two words and one of none. -/
theorem format_lines_scale_nested :
    (1 : Int) ≤ 1 ∧ (1 : Int) < 2 ^ 31 ∧ (1 : Int) ≤ 3 ∧ (3 : Int) < 2 ^ 31 ∧ ∃ out out',
      Options.format ⟨.int 1, .ofString "lower",
          some (.ofTexts ["select".toList, "order by".toList, " ".toList])⟩
        "a,select((select b,order c),\tselect d);select )".toList = .ok out ∧
      Options.format ⟨.int 3, .ofString "lower",
          some (.ofTexts ["select".toList, "order by".toList, " ".toList])⟩
        "a,select((select b,order c),\tselect d);select )".toList = .ok out' ∧
      List.Forall₂ (fun line line' =>
          dropSpaces line = dropSpaces line' ∧
            (leadingSpaces line : Int) * 3 = leadingSpaces line' * 1)
        (out.splitOn '\n') (out'.splitOn '\n') :=
  ⟨by decide, by decide, by decide, by decide,
    format_lines_scale _ _ 1 3 (by decide) (by decide) (by decide) (by decide) _⟩

end SqlTidy
