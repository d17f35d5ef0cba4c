/-
Module: SqlTidy.Proofs.Encoding
Purpose: A text without carriage returns is read back from the bytes that it is written as.
Main exports: Utf8.decodeFrom_encodeChar, Utf8.decode_encode, Text.unifyLineEnds_of_not_mem,
  decodeText_encode, FileView.readText_of_decode
-/
import Mathlib
import SqlTidy.Files.Text

namespace SqlTidy

/-!
Decoding sees one character at a time: the first byte tells how many there are, and the others are
in the ranges that it allows.  The ranges exclude what no character is spelled as, so the work is to
show that they exclude no character.
-/

namespace Utf8

theorem toNat_toUInt8_of_lt {n : Nat} (h : n < 0x100) : n.toUInt8.toNat = n := by
  rw [Nat.toUInt8, UInt8.toNat_ofNat']
  exact Nat.mod_eq_of_lt h

/-- The code point of a character is not that of a surrogate. -/
theorem toNat_cases (c : Char) : c.toNat < 0xD800 ∨ 0xDFFF < c.toNat ∧ c.toNat < 0x110000 :=
  c.valid

theorem isContinuation_of_bounds {b : UInt8} (hlow : 0x80 ≤ b.toNat) (hhigh : b.toNat ≤ 0xBF) :
    isContinuation b = true := by
  simp [isContinuation, UInt8.le_iff_toNat_le, hlow, hhigh]

theorem isSecondOfThree_of_bounds {a b : UInt8} (hb : isContinuation b = true)
    (hlow : a.toNat = 0xE0 → 0xA0 ≤ b.toNat) (hhigh : a.toNat = 0xED → b.toNat ≤ 0x9F) :
    isSecondOfThree a b = true := by
  simp only [isSecondOfThree, hb, Bool.true_and, Bool.and_eq_true, Bool.or_eq_true, bne_iff_ne,
    decide_eq_true_eq, UInt8.le_iff_toNat_le, ne_eq, ← UInt8.toNat_inj]
  exact ⟨or_iff_not_imp_left.2 fun h => hlow (not_not.1 h),
    or_iff_not_imp_left.2 fun h => hhigh (not_not.1 h)⟩

theorem isSecondOfFour_of_bounds {a b : UInt8} (hb : isContinuation b = true)
    (hlow : a.toNat = 0xF0 → 0x90 ≤ b.toNat) (hhigh : a.toNat = 0xF4 → b.toNat ≤ 0x8F) :
    isSecondOfFour a b = true := by
  simp only [isSecondOfFour, hb, Bool.true_and, Bool.and_eq_true, Bool.or_eq_true, bne_iff_ne,
    decide_eq_true_eq, UInt8.le_iff_toNat_le, ne_eq, ← UInt8.toNat_inj]
  exact ⟨or_iff_not_imp_left.2 fun h => hlow (not_not.1 h),
    or_iff_not_imp_left.2 fun h => hhigh (not_not.1 h)⟩

section Sequences

variable {a b c d : UInt8} (done : List Char) (position : Nat) (rest : List UInt8)

theorem decodeFrom_one (ha : a.toNat < 0x80) :
    decodeFrom done position (a :: rest) =
      decodeFrom (Char.ofNat a.toNat :: done) (position + 1) rest := by
  have hone : a < 0x80 := UInt8.lt_iff_toNat_lt.2 ha
  rw [decodeFrom.eq_def]
  simp only [hone, if_true]

/-- A byte that starts a character of several bytes. -/
theorem not_badStart (a : UInt8) (hlow : 0xC2 ≤ a.toNat) (hhigh : a.toNat ≤ 0xF4) :
    ¬ a < 0x80 ∧ (decide (a < 0xC2) || decide (0xF4 < a)) = false := by
  simp only [UInt8.lt_iff_toNat_lt, Bool.or_eq_false_iff, decide_eq_false_iff_not]
  refine ⟨?_, ?_, ?_⟩
  · exact Nat.not_lt.2 (le_trans (by decide) hlow)
  · exact Nat.not_lt.2 hlow
  · exact Nat.not_lt.2 hhigh

theorem decodeFrom_two (ha : 0xC2 ≤ a.toNat) (ha' : a.toNat < 0xE0)
    (hb : isContinuation b = true) :
    decodeFrom done position (a :: b :: rest) =
      decodeFrom (char2 a b :: done) (position + 2) rest := by
  obtain ⟨hone, hstart⟩ := not_badStart a ha (by omega)
  have htwo : a < 0xE0 := UInt8.lt_iff_toNat_lt.2 ha'
  rw [decodeFrom.eq_def]
  simp only [hone, hstart, htwo, hb, if_true, if_false, Bool.false_eq_true]

theorem decodeFrom_three (ha : 0xE0 ≤ a.toNat) (ha' : a.toNat < 0xF0)
    (hb : isSecondOfThree a b = true) (hc : isContinuation c = true) :
    decodeFrom done position (a :: b :: c :: rest) =
      decodeFrom (char3 a b c :: done) (position + 3) rest := by
  obtain ⟨hone, hstart⟩ := not_badStart a (by omega) (by omega)
  have htwo : ¬ a < 0xE0 := UInt8.not_lt.2 (UInt8.le_iff_toNat_le.2 ha)
  have hthree : a < 0xF0 := UInt8.lt_iff_toNat_lt.2 ha'
  rw [decodeFrom.eq_def]
  simp only [hone, hstart, htwo, hthree, hb, hc, if_true, if_false, Bool.false_eq_true]

theorem decodeFrom_four (ha : 0xF0 ≤ a.toNat) (ha' : a.toNat ≤ 0xF4)
    (hb : isSecondOfFour a b = true) (hc : isContinuation c = true)
    (hd : isContinuation d = true) :
    decodeFrom done position (a :: b :: c :: d :: rest) =
      decodeFrom (char4 a b c d :: done) (position + 4) rest := by
  obtain ⟨hone, hstart⟩ := not_badStart a (by omega) (by omega)
  have htwo : ¬ a < 0xE0 := UInt8.not_lt.2 (UInt8.le_iff_toNat_le.2 (le_trans (by decide) ha))
  have hthree : ¬ a < 0xF0 := UInt8.not_lt.2 (UInt8.le_iff_toNat_le.2 ha)
  rw [decodeFrom.eq_def]
  simp only [hone, hstart, htwo, hthree, hb, hc, hd, if_true, if_false, Bool.false_eq_true]

end Sequences

/-- A byte after the first one of a character: six bits of the code point above a fixed mark. -/
theorem toNat_continuation (n : Nat) : (0x80 + n % 0x40).toUInt8.toNat = 0x80 + n % 0x40 :=
  toNat_toUInt8_of_lt (by omega)

theorem isContinuation_byte (n : Nat) : isContinuation (0x80 + n % 0x40).toUInt8 = true := by
  have hbyte := toNat_continuation n
  exact isContinuation_of_bounds (by omega) (by omega)

/-! ### One character, by the number of its bytes -/

section Widths

variable (done : List Char) (position : Nat) {c : Char} (rest : List UInt8)

theorem ofNat_of_eq_toNat {n : Nat} (h : n = c.toNat) : Char.ofNat n = c := by
  rw [h, Char.ofNat_toNat]

theorem decodeFrom_encodeChar_one (hone : c.toNat < 0x80) :
    decodeFrom done position (encodeChar c ++ rest) =
      decodeFrom (c :: done) (position + (encodeChar c).length) rest := by
  have hbyte : c.toNat.toUInt8.toNat = c.toNat := toNat_toUInt8_of_lt (by omega)
  have hencode : encodeChar c = [c.toNat.toUInt8] := by simp [encodeChar, hone]
  rw [hencode, List.singleton_append, decodeFrom_one _ _ _ (by omega), ofNat_of_eq_toNat hbyte]
  rfl

theorem decodeFrom_encodeChar_two (hone : ¬ c.toNat < 0x80) (htwo : c.toNat < 0x800) :
    decodeFrom done position (encodeChar c ++ rest) =
      decodeFrom (c :: done) (position + (encodeChar c).length) rest := by
  have hlast := toNat_continuation c.toNat
  have hfirst : (0xC0 + c.toNat / 0x40).toUInt8.toNat = 0xC0 + c.toNat / 0x40 :=
    toNat_toUInt8_of_lt (by omega)
  have hencode : encodeChar c =
      [(0xC0 + c.toNat / 0x40).toUInt8, (0x80 + c.toNat % 0x40).toUInt8] := by
    simp [encodeChar, hone, htwo]
  rw [hencode, List.cons_append, List.singleton_append,
    decodeFrom_two _ _ _ (by omega) (by omega) (isContinuation_byte _), char2,
    ofNat_of_eq_toNat (c := c) (by omega)]
  rfl

/-- The surrogates, which the second byte excludes, are no characters. -/
theorem decodeFrom_encodeChar_three (htwo : ¬ c.toNat < 0x800) (hthree : c.toNat < 0x10000) :
    decodeFrom done position (encodeChar c ++ rest) =
      decodeFrom (c :: done) (position + (encodeChar c).length) rest := by
  have hvalid := toNat_cases c
  have hsecond := toNat_continuation (c.toNat / 0x40)
  have hlast := toNat_continuation c.toNat
  have hfirst : (0xE0 + c.toNat / 0x1000).toUInt8.toNat = 0xE0 + c.toNat / 0x1000 :=
    toNat_toUInt8_of_lt (by omega)
  have hone : ¬ c.toNat < 0x80 := by omega
  have hencode : encodeChar c = [(0xE0 + c.toNat / 0x1000).toUInt8,
      (0x80 + c.toNat / 0x40 % 0x40).toUInt8, (0x80 + c.toNat % 0x40).toUInt8] := by
    simp [encodeChar, hone, htwo, hthree]
  have hb := isSecondOfThree_of_bounds (a := (0xE0 + c.toNat / 0x1000).toUInt8)
    (isContinuation_byte (c.toNat / 0x40)) (by omega) (by omega)
  rw [hencode, List.cons_append, List.cons_append, List.singleton_append,
    decodeFrom_three _ _ _ (by omega) (by omega) hb (isContinuation_byte _), char3,
    ofNat_of_eq_toNat (c := c) (by omega)]
  rfl

/-- What the second byte excludes here is beyond the last code point. -/
theorem decodeFrom_encodeChar_four (hthree : ¬ c.toNat < 0x10000) :
    decodeFrom done position (encodeChar c ++ rest) =
      decodeFrom (c :: done) (position + (encodeChar c).length) rest := by
  have hvalid := toNat_cases c
  have hsecond := toNat_continuation (c.toNat / 0x1000)
  have hthird := toNat_continuation (c.toNat / 0x40)
  have hlast := toNat_continuation c.toNat
  have hfirst : (0xF0 + c.toNat / 0x40000).toUInt8.toNat = 0xF0 + c.toNat / 0x40000 :=
    toNat_toUInt8_of_lt (by omega)
  have hone : ¬ c.toNat < 0x80 := by omega
  have htwo : ¬ c.toNat < 0x800 := by omega
  have hencode : encodeChar c = [(0xF0 + c.toNat / 0x40000).toUInt8,
      (0x80 + c.toNat / 0x1000 % 0x40).toUInt8, (0x80 + c.toNat / 0x40 % 0x40).toUInt8,
      (0x80 + c.toNat % 0x40).toUInt8] := by
    simp [encodeChar, hone, htwo, hthree]
  have hb := isSecondOfFour_of_bounds (a := (0xF0 + c.toNat / 0x40000).toUInt8)
    (isContinuation_byte (c.toNat / 0x1000)) (by omega) (by omega)
  rw [hencode, List.cons_append, List.cons_append, List.cons_append, List.singleton_append,
    decodeFrom_four _ _ _ (by omega) (by omega) hb (isContinuation_byte _)
      (isContinuation_byte _), char4, ofNat_of_eq_toNat (c := c) (by omega)]
  rfl

end Widths

/-! ### Whole texts -/

/-- The bytes of a character decode to the character. -/
theorem decodeFrom_encodeChar (done : List Char) (position : Nat) (c : Char)
    (rest : List UInt8) :
    decodeFrom done position (encodeChar c ++ rest) =
      decodeFrom (c :: done) (position + (encodeChar c).length) rest := by
  by_cases hone : c.toNat < 0x80
  · exact decodeFrom_encodeChar_one done position rest hone
  by_cases htwo : c.toNat < 0x800
  · exact decodeFrom_encodeChar_two done position rest hone htwo
  by_cases hthree : c.toNat < 0x10000
  · exact decodeFrom_encodeChar_three done position rest htwo hthree
  · exact decodeFrom_encodeChar_four done position rest hthree

theorem decodeFrom_encode (done : List Char) (position : Nat) (text : List Char) :
    decodeFrom done position (encode text) = .ok (done.reverse ++ text) := by
  induction text generalizing done position with
  | nil => simp [encode, decodeFrom]
  | cons c text ih =>
      have hencode : encode (c :: text) = encodeChar c ++ encode text := rfl
      rw [hencode, decodeFrom_encodeChar, ih]
      simp

/-- The bytes of a text decode to the text. -/
theorem decode_encode (text : List Char) : decode (encode text) = .ok text := by
  simpa [decode] using decodeFrom_encode [] 0 text

end Utf8

/-! ### Line ends -/

namespace Text

theorem unifyLineEndsFrom_of_not_mem (done : List Char) {text : List Char} (h : '\r' ∉ text) :
    unifyLineEndsFrom done text = done.reverse ++ text := by
  fun_induction unifyLineEndsFrom done text with
  | case1 done => simp
  | case2 => simp at h
  | case3 => simp at h
  | case4 done c rest _ _ ih =>
      rw [ih fun hmem => h (List.mem_cons_of_mem _ hmem)]
      simp

theorem unifyLineEnds_of_not_mem {text : List Char} (h : '\r' ∉ text) :
    unifyLineEnds text = text := by
  simpa [unifyLineEnds] using unifyLineEndsFrom_of_not_mem [] h

end Text

/-- A text without carriage returns is read back from its bytes. -/
theorem decodeText_encode {text : List Char} (h : '\r' ∉ text) :
    decodeText Utf8.decode (Utf8.encode text) = .ok text := by
  rw [decodeText, Utf8.decode_encode]
  simp only [Text.unifyLineEnds_of_not_mem h]

/-- A file whose bytes are a text is read as that text, with its line ends unified. -/
theorem FileView.readText_of_decode {view : FileView} {path : Path} {bytes : List UInt8}
    {text : List Char} (hfile : view.find path = .ok (.file bytes))
    (hbytes : Utf8.decode bytes = .ok text) :
    view.readText path = .ok (Text.unifyLineEnds text) := by
  have hread : view.read path = .ok bytes := by rw [read, hfile]
  rw [readText, readTextBy, hread]
  simp only [decodeText, hbytes]

end SqlTidy
