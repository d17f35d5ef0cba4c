/-
Module: SqlTidy.Text.Pattern
Purpose: Patterns, how they are written, and whether a text has a part that fits one.
Main exports: Pattern, Pattern.parse?, Pattern.isFound
-/

namespace SqlTidy.Text

/-!
A pattern is written with characters that stand for themselves, ranges of characters in brackets,
groups in parentheses, a star or a plus sign after what may be repeated, and marks for both ends of
the text.  Whatever is written in another way is no pattern here.  A pattern is found in a text if
some part of the text fits it.
-/

/-- A pattern for a part of a text. -/
inductive Pattern where
  /-- The empty part. -/
  | empty
  /-- The empty part at the start of the text. -/
  | start
  /-- The empty part at the end of the text, or before a line feed at the end. -/
  | finish
  /-- One code point of a range; ranges are given by their ends. -/
  | oneOf (ranges : List (Nat × Nat))
  /-- Two parts, one after the other. -/
  | seq (first second : Pattern)
  /-- Any number of parts, one after the other. -/
  | many (body : Pattern)
deriving Repr, DecidableEq

namespace Pattern

/-! ### How patterns are written -/

/-- The pattern of parts that follow each other, given last first. -/
def sequence (parts : List Pattern) : Pattern :=
  parts.foldl (fun after part => .seq part after) .empty

/-- A character that asks for a repetition, or that changes how one is done. -/
def isRepetition (c : Char) : Bool :=
  c == '*' || c == '+' || c == '?' || c == '\x7b'

/-- A character that has a meaning of its own which is not covered here. -/
def isReserved (c : Char) : Bool :=
  isRepetition c || c == '\\' || c == '.' || c == '|'

/-- The parts with the last one repeated, if it can be. -/
def repeatLast? (repeated : Pattern → Pattern) : List Pattern → Option (List Pattern)
  | [] | .start :: _ | .finish :: _ => none
  | part :: parts => some (repeated part :: parts)

mutual

/-- Reads parts of a pattern.  `outer` are the parts before each group that is still open, and
`parts` those of the innermost group, all of them last first. -/
def parseParts? (outer : List (List Pattern)) (parts : List Pattern) :
    List Char → Option Pattern
  | [] => if outer.isEmpty then some (sequence parts) else none
  | '^' :: rest => parseParts? outer (.start :: parts) rest
  | '$' :: rest => parseParts? outer (.finish :: parts) rest
  | '[' :: rest => parseRanges? outer parts [] rest
  | '(' :: rest => parseParts? (parts :: outer) [] rest
  | ')' :: rest =>
      match outer with
      | [] => none
      | before :: outer => parseParts? outer (sequence parts :: before) rest
  | '*' :: rest =>
      match repeatLast? .many parts with
      | none => none
      | some parts => if rest.head?.any isRepetition then none else parseParts? outer parts rest
  | '+' :: rest =>
      match repeatLast? (fun part => .seq part (.many part)) parts with
      | none => none
      | some parts => if rest.head?.any isRepetition then none else parseParts? outer parts rest
  | c :: rest =>
      if isReserved c then none
      else parseParts? outer (.oneOf [(c.toNat, c.toNat)] :: parts) rest

/-- Reads ranges up to the closing bracket, after those that have been read. -/
def parseRanges? (outer : List (List Pattern)) (parts : List Pattern)
    (ranges : List (Nat × Nat)) : List Char → Option Pattern
  | [] => none
  | ']' :: rest =>
      if ranges.isEmpty then none else parseParts? outer (.oneOf ranges :: parts) rest
  | first :: '-' :: last :: rest =>
      if first.isAlphanum && last.isAlphanum && first.toNat ≤ last.toNat then
        parseRanges? outer parts (ranges ++ [(first.toNat, last.toNat)]) rest
      else none
  | c :: rest =>
      if c.isAlphanum then parseRanges? outer parts (ranges ++ [(c.toNat, c.toNat)]) rest
      else none

end

/-- The pattern that a text is written for. -/
def parse? (text : List Char) : Option Pattern :=
  parseParts? [] [] text

/-! ### What fits a pattern -/

/-- A place in a text: whether it is the start, and the code points after it. -/
structure Spot where
  atStart : Bool
  rest : List Nat
deriving Repr, DecidableEq

/-- The places that can be reached by steps, each of which takes at least one code point. -/
def reach (step : Spot → List Spot) : (fuel : Nat) → Spot → List Spot
  | 0, spot => [spot]
  | fuel + 1, spot =>
      spot :: ((step spot).filter fun next => next.rest.length < spot.rest.length).flatMap
        (reach step fuel)

/-- The places where a part that fits the pattern can end if it starts at the given place. -/
def ends : Pattern → Spot → List Spot
  | empty, spot => [spot]
  | start, spot => if spot.atStart then [spot] else []
  | finish, spot => if spot.rest.isEmpty || spot.rest == [0xA] then [spot] else []
  | oneOf ranges, spot =>
      match spot.rest with
      | [] => []
      | n :: rest =>
          if ranges.any fun range => range.1 ≤ n && n ≤ range.2 then [⟨false, rest⟩] else []
  | seq first second, spot => (ends first spot).flatMap (ends second)
  | many body, spot => reach (ends body) spot.rest.length spot

/-- A part that fits the pattern starts at the given place or after it. -/
def isFoundFrom (pattern : Pattern) (atStart : Bool) : List Nat → Bool
  | [] => !(pattern.ends ⟨atStart, []⟩).isEmpty
  | n :: rest => !(pattern.ends ⟨atStart, n :: rest⟩).isEmpty || isFoundFrom pattern false rest

/-- Some part of the text fits the pattern. -/
def isFound (pattern : Pattern) (text : List Nat) : Bool :=
  pattern.isFoundFrom true text

end Pattern

end SqlTidy.Text
