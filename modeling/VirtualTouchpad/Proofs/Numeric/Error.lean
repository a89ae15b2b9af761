/-
# How far rounding is off

`Binary.value` is the absolute value of a finite number as a rational.  A
quotient that is rounded to 64 bits is off by at most `2 ^ -53` of itself, and
not at all if its leading 53 binary digits are all it has.
-/
import Mathlib.Algebra.Order.Field.Rat
import Mathlib.Data.Rat.Cast.Order
import Mathlib.Tactic.FieldSimp
import Mathlib.Tactic.Linarith
import Mathlib.Tactic.NormNum
import Mathlib.Tactic.Positivity
import VirtualTouchpad.Proofs.Numeric.Rounding

namespace VirtualTouchpad.Binary

variable {f : BinaryFormat} {num den : Nat}

/-- The absolute value of a finite number. -/
def value (x : Binary f) : ℚ := x.units / 2 ^ f.unitBits

/-! ## Rounding in any format -/

/-- Rounding is off by at most half a step of the scale. -/
theorem abs_ratioCoefficient_sub_le (hden : 0 < den) :
    |(ratioCoefficient f num den * 2 ^ ratioScale f num den : ℚ) / 2 ^ f.unitBits - num / den| ≤
      2 ^ ratioScale f num den / 2 ^ f.unitBits / 2 := by
  have hstep : 0 < den * 2 ^ ratioScale f num den := Nat.mul_pos hden (Nat.two_pow_pos _)
  have hlow : (2 * (ratioCoefficient f num den * (den * 2 ^ ratioScale f num den)) : ℚ) ≤
      2 * (num * 2 ^ f.unitBits) + den * 2 ^ ratioScale f num den := by
    exact_mod_cast two_mul_roundHalfEven_le (num * 2 ^ f.unitBits) hstep
  have hhigh : (2 * (num * 2 ^ f.unitBits) : ℚ) ≤
      2 * (ratioCoefficient f num den * (den * 2 ^ ratioScale f num den)) +
        den * 2 ^ ratioScale f num den := by
    exact_mod_cast two_mul_le_roundHalfEven (num * 2 ^ f.unitBits) hstep
  have hden' : (0 : ℚ) < den := by exact_mod_cast hden
  have hunit : (0 : ℚ) < 2 ^ f.unitBits := by positivity
  have hsplit : (ratioCoefficient f num den * 2 ^ ratioScale f num den : ℚ) / 2 ^ f.unitBits -
      num / den = (ratioCoefficient f num den * (den * 2 ^ ratioScale f num den) -
        num * 2 ^ f.unitBits) / (den * 2 ^ f.unitBits) := by
    field_simp
  have hhalf : (2 : ℚ) ^ ratioScale f num den / 2 ^ f.unitBits / 2 =
      (den * 2 ^ ratioScale f num den / 2) / (den * 2 ^ f.unitBits) := by
    field_simp
  rw [hsplit, hhalf, abs_div, abs_of_pos (mul_pos hden' hunit)]
  refine div_le_div_of_nonneg_right (abs_le.2 ⟨by linarith, by linarith⟩) (by positivity)

/-- A quotient that fills the coefficient is rounded to within half a unit in the last place. -/
theorem abs_ratioCoefficient_sub_le_of_normal (hden : 0 < den)
    (hnormal : den * 2 ^ f.fractionBits ≤ num * 2 ^ f.unitBits) :
    |(ratioCoefficient f num den * 2 ^ ratioScale f num den : ℚ) / 2 ^ f.unitBits - num / den| ≤
      num / den / 2 ^ (f.fractionBits + 1) := by
  refine (abs_ratioCoefficient_sub_le hden).trans ?_
  have hfull : den * 2 ^ ratioScale f num den * 2 ^ f.fractionBits ≤ num * 2 ^ f.unitBits := by
    rcases Nat.eq_zero_or_pos (ratioScale f num den) with h0 | hpos
    · simpa [h0] using hnormal
    · exact le_of_ratioScale hpos
  have hfull' : (den * 2 ^ ratioScale f num den * 2 ^ f.fractionBits : ℚ) ≤
      num * 2 ^ f.unitBits := by exact_mod_cast hfull
  have hden' : (0 : ℚ) < den := by exact_mod_cast hden
  rw [pow_succ, div_div, div_div, div_le_div_iff₀ (by positivity) (by positivity)]
  nlinarith [hfull']

/-- A quotient of few enough binary digits is not changed by rounding. -/
theorem ratioCoefficient_of_exact {c j : Nat} (hden : 0 < den)
    (hc : c < 2 ^ (f.fractionBits + 1)) (h : num * 2 ^ f.unitBits = den * (c * 2 ^ j)) :
    ratioCoefficient f num den * 2 ^ ratioScale f num den = c * 2 ^ j := by
  have hle : ratioScale f num den ≤ j := by
    rcases Nat.eq_zero_or_pos c with rfl | hpos
    · simp [ratioScale, h]
    · have hlt : c * 2 ^ j < 2 ^ (f.fractionBits + 1 + j) := by
        rw [Nat.pow_add]; exact Nat.mul_lt_mul_of_pos_right hc (Nat.two_pow_pos _)
      have := (Nat.log2_lt (Nat.mul_pos hpos (Nat.two_pow_pos j)).ne').2 hlt
      rw [ratioScale, h, Nat.mul_div_cancel_left _ hden]
      omega
  obtain ⟨k, rfl⟩ := Nat.exists_eq_add_of_le hle
  have hstep : 0 < den * 2 ^ ratioScale f num den := Nat.mul_pos hden (Nat.two_pow_pos _)
  have hsplit : num * 2 ^ f.unitBits = c * 2 ^ k * (den * 2 ^ ratioScale f num den) := by
    rw [h, Nat.pow_add]; ring
  rw [ratioCoefficient, hsplit, roundHalfEven_mul_self _ _ hstep, Nat.pow_add]
  ring

/-! ## Rounding to 64 bits -/

/-- A quotient of moderate size stays far below infinity. -/
theorem ratio_lt_infinity {k : Nat} (hk : k ≤ 1000) (hden : 0 < den) (hhigh : num ≤ den * 2 ^ k) :
    ratioScale .double num den * 2 ^ BinaryFormat.double.fractionBits +
      ratioCoefficient .double num den < BinaryFormat.double.infinityMagnitude := by
  have hunit : BinaryFormat.double.unitBits = 1074 := rfl
  have hfraction : BinaryFormat.double.fractionBits = 52 := rfl
  have htop : BinaryFormat.double.infinityMagnitude = 2047 * 2 ^ 52 := rfl
  have hscale : ratioScale .double num den + BinaryFormat.double.fractionBits < k + 1074 + 1 := by
    refine ratioScale_lt hden (by rw [hfraction]; omega) ?_
    rw [hunit]
    calc num * 2 ^ 1074 ≤ den * 2 ^ k * 2 ^ 1074 := Nat.mul_le_mul_right _ hhigh
      _ = den * 2 ^ (k + 1074) := by rw [Nat.mul_assoc, ← Nat.pow_add]
      _ < den * 2 ^ (k + 1074 + 1) :=
        Nat.mul_lt_mul_of_pos_left (Nat.pow_lt_pow_succ (Nat.lt_succ_self 1)) hden
  have hcoefficient : ratioCoefficient .double num den ≤ 2 ^ (BinaryFormat.double.fractionBits + 1) :=
    ratioCoefficient_le hden
  rw [hfraction] at hscale hcoefficient ⊢
  rw [htop]
  omega

/-- What a quotient of moderate size is rounded to. -/
structure Rounded (negative : Bool) (q : ℚ) (y : Double) : Prop where
  isFinite : y.IsFinite
  negative_eq : y.negative = negative
  /-- It is off by at most half a unit in the last place. -/
  near : |y.value - q| ≤ q / 2 ^ 53
  /-- It is exact if 53 binary digits are enough. -/
  exact : ∀ c j : Nat, c < 2 ^ 53 → q = c * 2 ^ j / 2 ^ BinaryFormat.double.unitBits → y.value = q

/-- Rounding a quotient between `2 ^ -k` and `2 ^ k`. -/
theorem rounded_ofRatio (negative : Bool) (num : Nat) {k : Nat} (hk : k ≤ 1000) (hden : 0 < den)
    (hlow : 1 ≤ (num / den : ℚ) * 2 ^ k) (hhigh : (num / den : ℚ) ≤ 2 ^ k) :
    Rounded negative (num / den) (ofRatio .double negative num den) := by
  have hden' : (0 : ℚ) < den := by exact_mod_cast hden
  have hlow' : den ≤ num * 2 ^ k := by
    rw [div_mul_eq_mul_div, le_div_iff₀ hden', one_mul] at hlow
    exact_mod_cast hlow
  have hhigh' : num ≤ den * 2 ^ k := by
    rw [div_le_iff₀ hden', mul_comm] at hhigh
    exact_mod_cast hhigh
  obtain ⟨hfinite, hsign, hunits⟩ :=
    ofRatio_finite negative hden (ratio_lt_infinity hk hden hhigh')
  have hvalue : (ofRatio .double negative num den).value =
      (ratioCoefficient .double num den * 2 ^ ratioScale .double num den : ℚ) /
        2 ^ BinaryFormat.double.unitBits := by
    rw [value, hunits]; push_cast; rfl
  refine ⟨hfinite, hsign, ?_, fun c j hc hq => ?_⟩
  · rw [hvalue]
    refine abs_ratioCoefficient_sub_le_of_normal hden ?_
    have hunit : k + BinaryFormat.double.fractionBits ≤ BinaryFormat.double.unitBits := by
      change k + 52 ≤ 1074
      omega
    calc den * 2 ^ BinaryFormat.double.fractionBits
        ≤ num * 2 ^ k * 2 ^ BinaryFormat.double.fractionBits := Nat.mul_le_mul_right _ hlow'
      _ = num * 2 ^ (k + BinaryFormat.double.fractionBits) := by rw [Nat.mul_assoc, ← Nat.pow_add]
      _ ≤ num * 2 ^ BinaryFormat.double.unitBits :=
        Nat.mul_le_mul_left _ (Nat.pow_le_pow_right Nat.two_pos hunit)
  · have hwhole : num * 2 ^ BinaryFormat.double.unitBits = den * (c * 2 ^ j) := by
      rw [div_eq_div_iff hden'.ne' (by positivity), mul_comm (_ * _)] at hq
      exact_mod_cast hq
    have hcast : (ratioCoefficient .double num den * 2 ^ ratioScale .double num den : ℚ) =
        c * 2 ^ j := by exact_mod_cast ratioCoefficient_of_exact hden hc hwhole
    rw [hvalue, hq, hcast]

/-- A whole number of at most 53 binary digits is not rounded. -/
theorem rounded_whole {n : Nat} (hpos : 0 < n) (hlt : n < 2 ^ 53) :
    (ofRatio .double false n 1).IsFinite ∧ (ofRatio .double false n 1).negative = false ∧
      (ofRatio .double false n 1).value = n := by
  have hpos' : (1 : ℚ) ≤ n := by exact_mod_cast hpos
  have hlt' : (n : ℚ) ≤ 2 ^ 53 := by exact_mod_cast hlt.le
  have hrounded := rounded_ofRatio false n (show 53 ≤ 1000 by decide) Nat.one_pos
    (by rw [Nat.cast_one, div_one]; linarith) (by rwa [Nat.cast_one, div_one])
  rw [Nat.cast_one, div_one] at hrounded
  refine ⟨hrounded.isFinite, hrounded.negative_eq,
    hrounded.exact n BinaryFormat.double.unitBits hlt ?_⟩
  field_simp

/-! ## Products and quotients -/

/-- A product of finite numbers is a quotient that is rounded. -/
theorem mul_eq_ofRatio {x y : Binary f} (hx : x.IsFinite) (hy : y.IsFinite) :
    x.mul y = ofRatio f (x.negative ^^ y.negative) (x.units * y.units) (2 ^ (2 * f.unitBits)) := by
  rw [mul, reading_of_isFinite hx, reading_of_isFinite hy]
  simp only [Nat.pow_eq]

section Arithmetic

variable {x y : Double} {k : Nat}

theorem rounded_mul (hx : x.IsFinite) (hy : y.IsFinite) (hk : k ≤ 1000)
    (hlow : 1 ≤ x.value * y.value * 2 ^ k) (hhigh : x.value * y.value ≤ 2 ^ k) :
    Rounded (x.negative ^^ y.negative) (x.value * y.value) (x.mul y) := by
  have hvalue : x.value * y.value =
      ((x.units * y.units : Nat) : ℚ) / (2 ^ (2 * BinaryFormat.double.unitBits) : Nat) := by
    rw [value, value, two_mul, pow_add]; push_cast; field_simp
  rw [mul_eq_ofRatio hx hy, hvalue]
  rw [hvalue] at hlow hhigh
  exact rounded_ofRatio _ _ hk (Nat.two_pow_pos _) hlow hhigh

theorem rounded_div (hx : x.IsFinite) (hy : y.IsFinite) (hk : k ≤ 1000) (hpos : 0 < y.value)
    (hlow : 1 ≤ x.value / y.value * 2 ^ k) (hhigh : x.value / y.value ≤ 2 ^ k) :
    Rounded (x.negative ^^ y.negative) (x.value / y.value) (x.div y) := by
  have hunits : 0 < y.units := by
    rcases Nat.eq_zero_or_pos y.units with h0 | hpos'
    · simp [value, h0] at hpos
    · exact hpos'
  have hdiv : x.div y = ofRatio .double (x.negative ^^ y.negative) x.units y.units := by
    rw [div, reading_of_isFinite hx, reading_of_isFinite hy]
    simp only [if_neg hunits.ne']
  have hvalue : x.value / y.value = (x.units : ℚ) / y.units := by
    have : (0 : ℚ) < y.units := by exact_mod_cast hunits
    rw [value, value]; field_simp
  rw [hdiv, hvalue]
  rw [hvalue] at hlow hhigh
  exact rounded_ofRatio _ _ hk hunits hlow hhigh

end Arithmetic

end VirtualTouchpad.Binary
