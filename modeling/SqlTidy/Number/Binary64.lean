/-
Module: SqlTidy.Number.Binary64
Purpose: Double-precision numbers, exactly.
Main exports: Binary64.IsCanonical, Binary64, Binary64.ofDecimal, Binary64.isIntegral,
  Binary64.exact
-/
import SqlTidy.Number.Exact

namespace SqlTidy

namespace Binary64

/-- The least exponent, that of the numbers around zero. -/
def leastExponent : Int := -1074

/-- The greatest exponent. -/
def greatestExponent : Int := 971

/-- The mantissa and the exponent of a finite number: the mantissa is below `2 ^ 53`, and it is at
least `2 ^ 52` unless the exponent is the least one. -/
def IsCanonical (mantissa : Nat) (exponent : Int) : Prop :=
  mantissa < 0x20000000000000 ∧ leastExponent ≤ exponent ∧ exponent ≤ greatestExponent ∧
    (0x10000000000000 ≤ mantissa ∨ exponent = leastExponent)

instance (mantissa : Nat) (exponent : Int) : Decidable (IsCanonical mantissa exponent) :=
  inferInstanceAs (Decidable (_ ∧ _))

end Binary64

/-- A double-precision number.  A finite one is `mantissa * 2 ^ exponent` with a sign of its
own. -/
inductive Binary64 where
  | nan
  | infinity (negative : Bool)
  | finite (negative : Bool) (mantissa : Nat) (exponent : Int)
      (canonical : Binary64.IsCanonical mantissa exponent := by decide)
deriving Repr, DecidableEq

namespace Binary64

/-- The zero with a sign. -/
def zero (negative : Bool) : Binary64 :=
  .finite negative 0 leastExponent

/-- The quotient rounded to the nearest natural number; a half goes to the even neighbour. -/
def roundDiv (num den : Nat) : Nat :=
  let q := num / den
  let twice := 2 * (num % den)
  if twice < den then q else if den < twice then q + 1 else q + q % 2

/-- A positive quotient divided by `2 ^ exponent`, as a quotient again. -/
def scale (num den : Nat) (exponent : Int) : Nat × Nat :=
  (num * Nat.pow 2 (-exponent).toNat, den * Nat.pow 2 exponent.toNat)

/-- The exponent at which a positive quotient has its leading 53 bits before the point. -/
def leadingExponent (num den : Nat) : Int :=
  let guess : Int := (num.log2 : Int) - den.log2 - 53
  let (n, d) := scale num den guess
  if n < 0x20000000000000 * d then guess else guess + 1

/-- The exponent at which a positive quotient is rounded: that of its leading bits, as far as the
least exponent allows. -/
def exponentOf (num den : Nat) : Int :=
  max leastExponent (leadingExponent num den)

/-! ### The leading bits of a quotient -/

theorem scale_succ_cases (num den : Nat) (e : Int) :
    ((scale num den (e + 1)).1 = (scale num den e).1 ∧
        (scale num den (e + 1)).2 = (scale num den e).2 * 2) ∨
      ((scale num den e).1 = (scale num den (e + 1)).1 * 2 ∧
        (scale num den (e + 1)).2 = (scale num den e).2) := by
  by_cases he : 0 ≤ e
  · left
    have hnone : (-(e + 1)).toNat = (-e).toNat := by omega
    have hone : (e + 1).toNat = e.toNat + 1 := by omega
    simp only [scale, hnone, hone, Nat.pow_eq, Nat.pow_succ, Nat.mul_assoc, and_self]
  · right
    have hone : (-e).toNat = (-(e + 1)).toNat + 1 := by omega
    have hnone : (e + 1).toNat = e.toNat := by omega
    simp only [scale, hone, hnone, Nat.pow_eq, Nat.pow_succ, Nat.mul_assoc, and_self]

/-- A quotient that has at most 53 bits before the point has no more at a greater exponent. -/
theorem scale_lt_of_le {num den : Nat} {e f : Int} (hle : e ≤ f)
    (h : (scale num den e).1 < 0x20000000000000 * (scale num den e).2) :
    (scale num den f).1 < 0x20000000000000 * (scale num den f).2 := by
  obtain ⟨k, rfl⟩ := Int.le.dest hle
  clear hle
  induction k with
  | zero => simpa using h
  | succ k ih =>
      have hstep := scale_succ_cases num den (e + k)
      rw [Int.add_assoc] at hstep
      rw [Int.natCast_succ]
      omega

/-- The guess from the lengths of both numbers leaves at least 53 bits before the point. -/
theorem le_scale_guess {num : Nat} (hnum : num ≠ 0) (den : Nat) :
    0x10000000000000 * (scale num den (num.log2 - den.log2 - 53)).2 ≤
      (scale num den (num.log2 - den.log2 - 53)).1 := by
  generalize he : (num.log2 : Int) - den.log2 - 53 = e
  calc 0x10000000000000 * (den * 2 ^ e.toNat)
      ≤ 2 ^ 52 * (2 ^ (den.log2 + 1) * 2 ^ e.toNat) :=
        Nat.mul_le_mul_left _ (Nat.mul_le_mul_right _ (Nat.le_of_lt Nat.lt_log2_self))
    _ = 2 ^ num.log2 * 2 ^ (-e).toNat := by
        rw [← Nat.pow_add, ← Nat.pow_add, ← Nat.pow_add]
        congr 1
        omega
    _ ≤ num * 2 ^ (-e).toNat := Nat.mul_le_mul_right _ (Nat.log2_self_le hnum)

/-- The exponent after the guess leaves at most 53 bits. -/
theorem scale_guess_succ_lt (num : Nat) {den : Nat} (hden : den ≠ 0) :
    (scale num den (num.log2 - den.log2 - 53 + 1)).1 <
      0x20000000000000 * (scale num den (num.log2 - den.log2 - 53 + 1)).2 := by
  generalize he : (num.log2 : Int) - den.log2 - 53 + 1 = e
  calc num * 2 ^ (-e).toNat
      < 2 ^ (num.log2 + 1) * 2 ^ (-e).toNat :=
        Nat.mul_lt_mul_of_pos_right Nat.lt_log2_self (Nat.two_pow_pos _)
    _ = 2 ^ 53 * (2 ^ den.log2 * 2 ^ e.toNat) := by
        rw [← Nat.pow_add, ← Nat.pow_add, ← Nat.pow_add]
        congr 1
        omega
    _ ≤ 0x20000000000000 * (den * 2 ^ e.toNat) :=
        Nat.mul_le_mul_left _ (Nat.mul_le_mul_right _ (Nat.log2_self_le hden))

/-- The exponent of the leading bits leaves exactly 53 of them. -/
theorem scale_leadingExponent {num den : Nat} (hnum : num ≠ 0) (hden : den ≠ 0) :
    (scale num den (leadingExponent num den)).1 <
        0x20000000000000 * (scale num den (leadingExponent num den)).2 ∧
      0x10000000000000 * (scale num den (leadingExponent num den)).2 ≤
        (scale num den (leadingExponent num den)).1 := by
  have hle := le_scale_guess hnum den
  have hlt := scale_guess_succ_lt num hden
  have hstep := scale_succ_cases num den (num.log2 - den.log2 - 53)
  unfold leadingExponent
  simp only
  split
  · rename_i hguess
    exact ⟨hguess, hle⟩
  · refine ⟨hlt, ?_⟩
    omega

theorem le_roundDiv (num den : Nat) : num / den ≤ roundDiv num den := by
  simp only [roundDiv]
  split
  · exact Nat.le_refl _
  · split
    · exact Nat.le_add_right _ _
    · exact Nat.le_add_right _ _

theorem roundDiv_le (num den : Nat) : roundDiv num den ≤ num / den + 1 := by
  simp only [roundDiv]
  split
  · omega
  · split
    · omega
    · omega

/-- The mantissa of a positive quotient before it is known whether it has grown to `2 ^ 53`. -/
def roundedMantissa (num den : Nat) : Nat :=
  roundDiv (scale num den (exponentOf num den)).1 (scale num den (exponentOf num den)).2

theorem roundedMantissa_bounds {num den : Nat} (hnum : num ≠ 0) (hden : den ≠ 0) :
    roundedMantissa num den ≤ 0x20000000000000 ∧
      (0x10000000000000 ≤ roundedMantissa num den ∨ exponentOf num den = leastExponent) := by
  obtain ⟨hlt, hle⟩ := scale_leadingExponent hnum hden
  have hmax : leadingExponent num den ≤ exponentOf num den := Int.le_max_right _ _
  have hcases : exponentOf num den = leadingExponent num den ∨
      exponentOf num den = leastExponent := by
    unfold exponentOf
    omega
  have hbelow := scale_lt_of_le hmax hlt
  have hpositive : 0 < (scale num den (exponentOf num den)).2 :=
    Nat.mul_pos (Nat.pos_of_ne_zero hden) (Nat.two_pow_pos _)
  constructor
  · have hquotient : (scale num den (exponentOf num den)).1 /
        (scale num den (exponentOf num den)).2 < 0x20000000000000 :=
      (Nat.div_lt_iff_lt_mul hpositive).2 hbelow
    exact Nat.le_trans (roundDiv_le _ _) hquotient
  · refine hcases.imp (fun hleading => ?_) id
    rw [← hleading] at hle
    exact Nat.le_trans ((Nat.le_div_iff_mul_le hpositive).2 hle) (le_roundDiv _ _)

/-- The double nearest to a positive quotient.  If rounding gives one bit more, the number is the
next power of two. -/
def ofQuotient (negative : Bool) (num den : Nat) (hnum : num ≠ 0) (hden : den ≠ 0) : Binary64 :=
  if hgrown : roundedMantissa num den = 0x20000000000000 then
    if hexponent : exponentOf num den + 1 ≤ greatestExponent then
      .finite negative 0x10000000000000 (exponentOf num den + 1) (by
        have hleast : leastExponent ≤ exponentOf num den := Int.le_max_left _ _
        exact ⟨by decide, by omega, hexponent, Or.inl (Nat.le_refl _)⟩)
    else .infinity negative
  else if hexponent : exponentOf num den ≤ greatestExponent then
    .finite negative (roundedMantissa num den) (exponentOf num den) (by
      obtain ⟨hsmall, hleading⟩ := roundedMantissa_bounds hnum hden
      exact ⟨by omega, Int.le_max_left _ _, hexponent, hleading⟩)
  else .infinity negative

/-- The double nearest to `digits * 10 ^ exponent`.  The number of digits decides at once where
the answer is out of reach. -/
def ofDecimal (negative : Bool) (digits : Nat) (exponent : Int) : Binary64 :=
  if hdigits : digits = 0 then zero negative
  else
    let magnitude := (Nat.toDigits 10 digits).length + exponent
    have hpower : Nat.pow 10 exponent.natAbs ≠ 0 :=
      Nat.ne_of_gt (Nat.pow_pos (by decide))
    if 400 < magnitude then .infinity negative
    else if magnitude < -400 then zero negative
    else if exponent < 0 then
      ofQuotient negative digits (Nat.pow 10 exponent.natAbs) hdigits hpower
    else
      ofQuotient negative (digits * Nat.pow 10 exponent.natAbs) 1
        (Nat.mul_ne_zero hdigits hpower) (by decide)

/-- The place of a double on the line. -/
def exact : Binary64 → Exact
  | .nan => .nan
  | .infinity negative => .infinity negative
  | .finite negative mantissa exponent _ =>
      .dyadic (if negative then -(mantissa : Int) else mantissa) exponent

/-- The number is finite and has no fractional part. -/
def isIntegral : Binary64 → Bool
  | .finite _ mantissa exponent _ => 0 ≤ exponent || mantissa % Nat.pow 2 exponent.natAbs == 0
  | _ => false

end Binary64

end SqlTidy
