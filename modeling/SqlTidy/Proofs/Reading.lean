/-
Module: SqlTidy.Proofs.Reading
Purpose: Where reading a JSON text can end, what values it gives, and what it means that an integer
  is too long.
Main exports: Json.IsDigitRun, Json.Value.Readable, Json.ReadsWithin, Json.readsWithin_readValue,
  Json.readable_of_read, Json.isDigitRun_of_read_longInteger
-/
import Mathlib
import SqlTidy.Json.Reader

namespace SqlTidy.Json

/-!
A reader that starts in a text stays in it: it goes on to a later place of the text, or it stops at
a fault.  Every value starts after a delimiter, a blank or nothing, so the digits that are counted
for an integer are all the digits that stand together there.
-/

/-- The number is a run of digits in the text, with no digit before or after it. -/
def IsDigitRun (text number : List Char) : Prop :=
  ∃ before after, text = before ++ number ++ after ∧ (∀ c ∈ number, c.isDigit = true) ∧
    (∀ c ∈ before.getLast?, c.isDigit = false) ∧ ∀ c ∈ after.head?, c.isDigit = false

/-- A value that a text can be read as: the fields of each object have distinct names, and no
integer has more digits than the limit. -/
inductive Value.Readable : Value → Prop
  | null : Readable .null
  | bool (value : Bool) : Readable (.bool value)
  | int (value : Int) (short : value.natAbs < Nat.pow 10 integerDigitLimit) : Readable (.int value)
  | float (value : Binary64) : Readable (.float value)
  | string (text : CodePoints) : Readable (.string text)
  | array (items : List Value) (parts : ∀ item ∈ items, Readable item) : Readable (.array items)
  | object (fields : List (CodePoints × Value)) (distinct : (fields.map (·.1)).Nodup)
      (parts : ∀ field ∈ fields, Readable field.2) : Readable (.object fields)

/-- What a reader may come to in a text: a value of some kind with what is left of the text after
it, a fault of the text, or an integer with more digits than the limit. -/
inductive ReadsWithin {α : Type} (text : List Char) (good : α → Prop) :
    Except Failure (α × Cursor) → Prop
  | read (value : α) (next : Cursor) (within : next.rest <:+ text) (sound : good value) :
      ReadsWithin text good (.ok (value, next))
  | malformed (problem : Problem) (offset : Nat) :
      ReadsWithin text good (.error (.malformed problem offset))
  | longInteger (number : List Char) (run : IsDigitRun text number)
      (long : integerDigitLimit < number.length) :
      ReadsWithin text good (.error (.longInteger number.length))

variable {text : List Char} {cursor : Cursor}

/-! ### Places where a value may start -/

/-- What is left starts after a part of the text that does not end with a digit. -/
def StartsApart (text : List Char) (cursor : Cursor) : Prop :=
  ∃ before, text = before ++ cursor.rest ∧ ∀ c ∈ before.getLast?, c.isDigit = false

theorem within_skip (h : cursor.rest <:+ text) (count : Nat) :
    (cursor.skip count).rest <:+ text :=
  (List.drop_suffix count cursor.rest).trans h

theorem within_skipBlanks (h : cursor.rest <:+ text) : cursor.skipBlanks.rest <:+ text :=
  (List.dropWhile_suffix isJsonBlank).trans h

theorem within_tail {c : Char} {rest : List Char} (h : cursor.rest <:+ text)
    (hrest : cursor.rest = c :: rest) : rest <:+ text := by
  rw [hrest] at h
  exact (List.suffix_cons c rest).trans h

theorem StartsApart.within (h : StartsApart text cursor) : cursor.rest <:+ text := by
  obtain ⟨before, htext, _⟩ := h
  exact ⟨before, htext.symm⟩

theorem isDigit_of_isJsonBlank {c : Char} (h : isJsonBlank c = true) : c.isDigit = false := by
  simp only [isJsonBlank, Bool.or_eq_true, beq_iff_eq] at h
  rcases h with ((rfl | rfl) | rfl) | rfl <;> rfl

theorem StartsApart.skipBlanks (h : StartsApart text cursor) :
    StartsApart text cursor.skipBlanks := by
  obtain ⟨before, htext, hbefore⟩ := h
  refine ⟨before ++ cursor.rest.takeWhile isJsonBlank, ?_, ?_⟩
  · rw [List.append_assoc, Cursor.skipBlanks, List.takeWhile_append_dropWhile, htext]
  · intro c hc
    rw [List.getLast?_append] at hc
    rcases hlast : (cursor.rest.takeWhile isJsonBlank).getLast? with _ | last
    · rw [hlast] at hc
      exact hbefore c hc
    · rw [hlast] at hc
      obtain rfl : last = c := by simpa using hc
      exact isDigit_of_isJsonBlank (List.mem_takeWhile_imp (List.mem_of_getLast? hlast))

theorem startsApart_skip_one {c : Char} {rest : List Char} (h : cursor.rest <:+ text)
    (hrest : cursor.rest = c :: rest) (hc : c.isDigit = false) :
    StartsApart text (cursor.skip 1) := by
  obtain ⟨before, htext⟩ := h
  refine ⟨before ++ [c], ?_, ?_⟩
  · rw [← htext, hrest, Cursor.skip, hrest]
    simp
  · intro d hd
    obtain rfl : c = d := by simpa using hd
    exact hc

theorem startsApart_start (text : List Char) : StartsApart text ⟨text, 0⟩ :=
  ⟨[], rfl, by simp⟩

/-! ### Strings and numbers -/

theorem readsWithin_readString {rest : List Char} (h : rest <:+ text) (start offset : Nat)
    (done : CodePoints) : ReadsWithin text (fun _ => True) (readString start done offset rest) := by
  fun_induction readString start done offset rest with
  | case1 => exact .malformed _ _
  | case2 => exact .read _ _ ((List.drop_suffix 1 _).trans h) trivial
  | case3 => exact .malformed _ _
  | case4 done offset a b c d next rest unit _ ih => exact ih ((List.drop_suffix 6 _).trans h)
  | case5 => exact .malformed _ _
  | case6 => exact .malformed _ _
  | case7 done offset c rest _ _ escaped _ ih => exact ih ((List.drop_suffix 2 _).trans h)
  | case8 => exact .malformed _ _
  | case9 => exact .malformed _ _
  | case10 done offset c rest _ _ _ _ _ _ ih => exact ih ((List.drop_suffix 1 _).trans h)

/-- A number starts with all the digits there are, or with a zero. -/
theorem wholeDigits_cases (rest : List Char) :
    wholeDigits rest = ['0'] ∨ wholeDigits rest = rest.takeWhile Char.isDigit := by
  unfold wholeDigits
  split
  · exact Or.inl rfl
  · exact Or.inr rfl

theorem StartsApart.isDigitRun_wholeDigits (h : StartsApart text cursor)
    (hlong : 1 < (wholeDigits cursor.rest).length) :
    IsDigitRun text (wholeDigits cursor.rest) := by
  obtain ⟨before, htext, hbefore⟩ := h
  rcases wholeDigits_cases cursor.rest with hzero | hall
  · rw [hzero] at hlong
    simp at hlong
  · rw [hall]
    refine ⟨before, cursor.rest.dropWhile Char.isDigit, ?_, ?_, hbefore, ?_⟩
    · rw [List.append_assoc, List.takeWhile_append_dropWhile, htext]
    · exact fun c hc => List.mem_takeWhile_imp hc
    · intro c hc
      have := List.head?_dropWhile_not Char.isDigit cursor.rest
      rw [Option.mem_def.1 hc] at this
      simpa using this

/-- The sign of a number is no digit either. -/
theorem StartsApart.skip_sign (h : StartsApart text cursor) :
    StartsApart text (cursor.skip (if cursor.rest.head? == some '-' then 1 else 0)) := by
  split
  · rename_i hsign
    obtain ⟨rest, hrest⟩ := List.head?_eq_some_iff.1 (beq_iff_eq.1 hsign)
    exact startsApart_skip_one h.within hrest rfl
  · exact h

theorem foldl_digits_lt {digits : List Char} (h : ∀ c ∈ digits, c.isDigit = true) (n : Nat) :
    digits.foldl (fun n c => n * 10 + (c.toNat - 0x30)) n < (n + 1) * 10 ^ digits.length := by
  induction digits generalizing n with
  | nil => simp
  | cons c digits ih =>
      obtain ⟨hc, hdigits⟩ := List.forall_mem_cons.1 h
      have hdigit : c.toNat ≤ 0x39 := (Char.isDigit_iff_toNat.1 hc).2
      have hrest := ih hdigits (n * 10 + (c.toNat - 0x30))
      have hstep : n * 10 + (c.toNat - 0x30) + 1 ≤ (n + 1) * 10 := by omega
      rw [List.foldl_cons, List.length_cons, pow_succ', ← mul_assoc]
      exact lt_of_lt_of_le hrest (Nat.mul_le_mul_right _ hstep)

/-- Digits within a limit spell a number within that limit. -/
theorem digitsValue_lt {digits : List Char} (h : ∀ c ∈ digits, c.isDigit = true) {limit : Nat}
    (hlength : digits.length ≤ limit) : digitsValue digits < Nat.pow 10 limit := by
  have hvalue := foldl_digits_lt h 0
  rw [zero_add, one_mul] at hvalue
  exact lt_of_lt_of_le hvalue (Nat.pow_le_pow_right (by decide) hlength)

theorem isDigit_of_mem_wholeDigits (rest : List Char) :
    ∀ c ∈ wholeDigits rest, c.isDigit = true := by
  rcases wholeDigits_cases rest with hzero | hall
  · rw [hzero]
    simp
  · rw [hall]
    exact fun c hc => List.mem_takeWhile_imp hc

theorem readsWithin_readNumber (h : StartsApart text cursor) :
    ReadsWithin text Value.Readable (readNumber cursor) := by
  unfold readNumber
  extract_lets negative signs unsigned whole afterWhole fraction points
  rcases exponentPart (afterWhole.drop points) with ⟨exponentSize, exponentNegative, exponent⟩
  simp only
  split
  · exact .malformed _ _
  · split
    · split
      · rename_i hlong
        exact .longInteger whole
          (h.skip_sign.isDigitRun_wholeDigits (lt_trans (by decide) hlong)) hlong
      · rename_i hshort
        have hbound := digitsValue_lt (isDigit_of_mem_wholeDigits unsigned)
          (Nat.not_lt.1 hshort)
        refine .read _ _ (within_skip h.within _) (.int _ ?_)
        split
        · rwa [Int.natAbs_neg, Int.natAbs_natCast]
        · rwa [Int.natAbs_natCast]
    · exact .read _ _ (within_skip h.within _) (.float _)

theorem readsWithin_readScalar (h : StartsApart text cursor) :
    ReadsWithin text Value.Readable (readScalar cursor) := by
  unfold readScalar
  split
  · exact .read _ _ (within_skip h.within _) .null
  · exact .read _ _ (within_skip h.within _) (.bool true)
  · exact .read _ _ (within_skip h.within _) (.bool false)
  · exact .read _ _ (within_skip h.within _) (.float _)
  · exact .read _ _ (within_skip h.within _) (.float _)
  · exact .read _ _ (within_skip h.within _) (.float _)
  · exact readsWithin_readNumber h

/-! ### Values

The three readers call each other with less fuel, and each of them keeps to the text if those that
it calls do. -/

/-- A reader keeps to the text as long as the one that it hands over to does. -/
theorem ReadsWithin.elim {α β : Type} {good : α → Prop} {fine : β → Prop}
    {outcome : Except Failure (α × Cursor)} {next : Except Failure (β × Cursor)}
    (h : ReadsWithin text good outcome)
    (herror : ∀ failure, outcome = .error failure → next = .error failure)
    (hok : ∀ value cursor, outcome = .ok (value, cursor) → cursor.rest <:+ text → good value →
      ReadsWithin text fine next) : ReadsWithin text fine next := by
  cases h with
  | read value cursor within sound => exact hok value cursor rfl within sound
  | malformed problem offset =>
      rw [herror _ rfl]
      exact .malformed problem offset
  | longInteger number run long =>
      rw [herror _ rfl]
      exact .longInteger number run long

/-- The fields of an object that can be read. -/
structure ReadableFields (fields : List (CodePoints × Value)) : Prop where
  distinct : (fields.map (·.1)).Nodup
  parts : ∀ field ∈ fields, Value.Readable field.2

/-- Giving a field its value keeps the names distinct. -/
theorem ReadableFields.setField {fields : List (CodePoints × Value)} (h : ReadableFields fields)
    (name : CodePoints) {value : Value} (hvalue : value.Readable) :
    ReadableFields (setField fields name value) := by
  unfold Json.setField
  split
  · have hnames : (fields.map fun field => if field.1 == name then (name, value) else field).map
        (·.1) = fields.map (·.1) := by
      rw [List.map_map]
      refine List.map_congr_left fun field _ => ?_
      by_cases hfield : field.1 = name
      · simp [hfield]
      · simp [hfield]
    refine ⟨by rw [hnames]; exact h.distinct, fun field hfield => ?_⟩
    obtain ⟨old, hold, rfl⟩ := List.mem_map.1 hfield
    split
    · exact hvalue
    · exact h.parts old hold
  · rename_i hfresh
    constructor
    · rw [List.map_append, List.nodup_append]
      refine ⟨h.distinct, by simp, fun old hold other hother heq => hfresh ?_⟩
      obtain ⟨field, hfield, rfl⟩ := List.mem_map.1 hold
      obtain rfl : other = name := by simpa using hother
      exact List.any_eq_true.2 ⟨field, hfield, by simpa using heq⟩
    · intro field hfield
      rcases List.mem_append.1 hfield with hold | hnew
      · exact h.parts field hold
      · rw [List.mem_singleton.1 hnew]
        exact hvalue

mutual

theorem readsWithin_readValue : ∀ (fuel : Nat) (cursor : Cursor), StartsApart text cursor →
    ReadsWithin text Value.Readable (readValue fuel cursor)
  | 0, _, _ => by
      rw [readValue]
      exact .malformed _ _
  | fuel + 1, cursor, h => by
      rw [readValue]
      split
      · rename_i rest hrest
        have hinside := within_tail h.within hrest
        refine (readsWithin_readString hinside cursor.offset (cursor.offset + 1) []).elim ?_ ?_
        · intro failure hfailure
          rw [hfailure]
        · intro value next hnext hwithin _
          rw [hnext]
          exact .read _ _ hwithin (.string value)
      · rename_i rest hrest
        have hinside : StartsApart text (cursor.skip 1).skipBlanks :=
          (startsApart_skip_one h.within hrest rfl).skipBlanks
        simp only
        split
        · exact .read _ _ (within_skip hinside.within 1) (.array [] (by simp))
        · exact readsWithin_readItems fuel [] _ hinside (by simp)
      · rename_i rest hrest
        have hinside : StartsApart text (cursor.skip 1).skipBlanks :=
          (startsApart_skip_one h.within hrest rfl).skipBlanks
        simp only
        split
        · exact .read _ _ (within_skip hinside.within 1) (.object [] (by simp) (by simp))
        · exact readsWithin_readFields fuel [] _ hinside.within ⟨by simp, by simp⟩
      · exact readsWithin_readScalar h

theorem readsWithin_readItems : ∀ (fuel : Nat) (done : List Value) (cursor : Cursor),
    StartsApart text cursor → (∀ item ∈ done, item.Readable) →
      ReadsWithin text Value.Readable (readItems fuel done cursor)
  | 0, _, _, _, _ => by
      rw [readItems]
      exact .malformed _ _
  | fuel + 1, done, cursor, h, hdone => by
      rw [readItems]
      refine (readsWithin_readValue fuel cursor h).elim ?_ ?_
      · intro failure hfailure
        rw [hfailure]
      · intro item next hnext hwithin hitem
        have hitems : ∀ other ∈ item :: done, other.Readable :=
          List.forall_mem_cons.2 ⟨hitem, hdone⟩
        rw [hnext]
        simp only
        split
        · refine .read _ _ (within_skip (within_skipBlanks hwithin) 1) (.array _ ?_)
          exact fun other hother => hitems other (List.mem_reverse.1 hother)
        · rename_i rest hrest
          exact readsWithin_readItems fuel _ _
            (startsApart_skip_one (within_skipBlanks hwithin) hrest rfl).skipBlanks hitems
        · exact .malformed _ _

theorem readsWithin_readFields : ∀ (fuel : Nat) (done : List (CodePoints × Value))
    (cursor : Cursor), cursor.rest <:+ text → ReadableFields done →
      ReadsWithin text Value.Readable (readFields fuel done cursor)
  | 0, _, _, _, _ => by
      rw [readFields]
      exact .malformed _ _
  | fuel + 1, done, cursor, h, hdone => by
      rw [readFields]
      split
      · rename_i rest hrest
        have hinside := within_tail h hrest
        refine (readsWithin_readString hinside cursor.offset (cursor.offset + 1) []).elim ?_ ?_
        · intro failure hfailure
          rw [hfailure]
        · intro name afterName hname hafterName _
          rw [hname]
          simp only
          split
          · rename_i hcolon
            have hvalue : StartsApart text (afterName.skipBlanks.skip 1).skipBlanks :=
              (startsApart_skip_one (within_skipBlanks hafterName) hcolon rfl).skipBlanks
            refine (readsWithin_readValue fuel _ hvalue).elim ?_ ?_
            · intro failure hfailure
              rw [hfailure]
            · intro value next hnext hwithin hreadable
              have hfields := hdone.setField name hreadable
              rw [hnext]
              simp only
              split
              · exact .read _ _ (within_skip (within_skipBlanks hwithin) 1)
                  (.object _ hfields.distinct hfields.parts)
              · exact readsWithin_readFields fuel _ _
                  (within_skipBlanks (within_skip (within_skipBlanks hwithin) 1)) hfields
              · exact .malformed _ _
          · exact .malformed _ _
      · exact .malformed _ _

end

theorem readDocument_of_read {value : Value} (h : Value.read text = .ok value) :
    ∃ next, readValue (2 * text.length + 2) (Cursor.mk text 0).skipBlanks = .ok (value, next) := by
  rw [Value.read, readDocument] at h
  split at h
  · simp [Except.mapError] at h
  · rcases hread : readValue (2 * text.length + 2) (Cursor.mk text 0).skipBlanks with
      failure | ⟨found, next⟩
    · rw [hread] at h
      simp [Except.mapError] at h
    · rw [hread] at h
      simp only at h
      split at h
      · obtain rfl : found = value := by simpa [Except.mapError] using h
        exact ⟨next, rfl⟩
      · simp [Except.mapError] at h

/-- What a text is read as has distinct names and no integer that is too long. -/
theorem readable_of_read {value : Value} (h : Value.read text = .ok value) : value.Readable := by
  obtain ⟨next, hvalue⟩ := readDocument_of_read h
  have hreads := readsWithin_readValue (2 * text.length + 2) _ (startsApart_start text).skipBlanks
  rw [hvalue] at hreads
  cases hreads with
  | read _ _ _ sound => exact sound

/-- An integer is too long only if the text has a run of that many digits. -/
theorem isDigitRun_of_read_longInteger {digits : Nat}
    (h : Value.read text = .error (.longInteger digits)) :
    integerDigitLimit < digits ∧ ∃ number, IsDigitRun text number ∧ number.length = digits := by
  have hstart := (startsApart_start text).skipBlanks
  have hvalue := readsWithin_readValue (2 * text.length + 2) _ hstart
  rw [Value.read, readDocument] at h
  split at h
  · simp [Except.mapError, Failure.locate] at h
  · generalize readValue (2 * text.length + 2) (Cursor.mk text 0).skipBlanks = outcome at h hvalue
    cases hvalue with
    | read value next within _ =>
        simp only at h
        split at h
        · simp [Except.mapError] at h
        · simp [Except.mapError, Failure.locate] at h
    | malformed problem offset => simp [Except.mapError, Failure.locate] at h
    | longInteger number run long =>
        obtain rfl : number.length = digits := by simpa [Except.mapError, Failure.locate] using h
        exact ⟨long, number, run, rfl⟩

end SqlTidy.Json
