/-
# Coordinates on an axis

A position in `[0, 1)` is scaled to an axis by a product of floats whose fraction is
dropped.  Whatever the size of the axis, the coordinate is one of its coordinates
(`Single.coordinate_bounds`): where the product is rounded up to the size, the greatest
one is taken.

If the size is a power of two nothing is rounded, and the coordinate is the floor of the
product (`Single.scalesExactly_of_two_pow`).
-/
import Mathlib.Data.Rat.Floor
import VirtualTouchpad.Proofs.Numeric.Ranges

namespace VirtualTouchpad

/-! ## Whole numbers of 32 bits -/

theorem toInt_saturate (n : Int) :
    (saturate n).toInt = max (-0x80000000) (min 0x7FFFFFFF n) := by
  rw [saturate, Int32.toInt_ofInt_of_le]
  · omega
  · omega

theorem toInt_min (a b : Int32) : (min a b).toInt = min a.toInt b.toInt := by
  show (if a ≤ b then a else b).toInt = _
  rw [Int.min_def]
  split
  · next h => rw [if_pos (Int32.le_iff_toInt_le.mp h)]
  · next h => rw [if_neg fun hle => h (Int32.le_iff_toInt_le.mpr hle)]

/-- One less than a size does not overflow. -/
theorem toInt_sub_one {size : Int32} (h : 1 ≤ size.toInt) : (size - 1).toInt = size.toInt - 1 :=
  Int32.toInt_sub_of_le size 1 (by decide) (Int32.le_iff_toInt_le.mpr h)

namespace Binary

variable {f : BinaryFormat} {num den : Nat}

/-! ## Numbers that are not below zero -/

/-- Whether a float is a finite number that is not below zero; a zero may have either sign. -/
structure IsNonneg (x : Binary f) : Prop where
  isFinite : x.IsFinite
  sign : x.negative = false ∨ x.units = 0

theorem isNonneg_of_number? {x : Binary f} {q : ℚ} (h : x.number? = some q) (hq : 0 ≤ q) :
    x.IsNonneg ∧ q = x.units / 2 ^ f.unitBits := by
  have hfinite : x.IsFinite := by
    intro htop
    rw [number?, reading, if_pos htop] at h
    by_cases hfraction : x.fractionField = 0
    · simp [hfraction] at h
    · simp [hfraction] at h
  rw [number?, reading_of_isFinite hfinite] at h
  have hvalue := Option.some.inj h
  cases hsign : x.negative with
  | false =>
    refine ⟨⟨hfinite, Or.inl hsign⟩, ?_⟩
    rw [← hvalue, hsign]
    rfl
  | true =>
    rw [hsign] at hvalue
    have hunits : (0 : ℚ) < 2 ^ f.unitBits := by positivity
    -- Below zero there is only the zero with a sign.
    have hle : (x.units : ℚ) ≤ 0 := by
      rw [← hvalue, signed, if_pos rfl, le_div_iff₀ hunits, zero_mul] at hq
      push_cast at hq
      linarith
    have hzero : x.units = 0 := by exact_mod_cast le_antisymm hle (Nat.cast_nonneg _)
    refine ⟨⟨hfinite, Or.inr hzero⟩, ?_⟩
    rw [← hvalue, hzero]
    simp [signed]

/-- The whole number of a float that is not below zero, up to the greatest of 32 bits. -/
theorem IsNonneg.toInt_truncate {x : Binary f} (h : x.IsNonneg) :
    x.truncate.toInt = min 0x7FFFFFFF ((x.units / 2 ^ f.unitBits : Nat) : Int) := by
  have hsigned : signed x.negative (x.units / 2 ^ f.unitBits)
      = ((x.units / 2 ^ f.unitBits : Nat) : Int) := by
    rcases h.sign with hsign | hzero
    · simp [signed, hsign]
    · simp [signed, hzero]
  rw [truncate, reading_of_isFinite h.isFinite]
  simp only [Nat.pow_eq]
  rw [hsigned, toInt_saturate]
  generalize x.units / 2 ^ f.unitBits = n
  omega

/-! ## Rounding to 32 bits -/

/-- A quotient that stays far below infinity is rounded to a finite number. -/
theorem ofRatio_single_finite (negative : Bool) (hden : 0 < den)
    (h : num * 2 ^ 149 < den * 2 ^ 200) :
    (ofRatio .single negative num den).IsFinite
      ∧ (ofRatio .single negative num den).negative = negative
      ∧ (ofRatio .single negative num den).units
        = ratioCoefficient .single num den * 2 ^ ratioScale .single num den := by
  have hscale : ratioScale .single num den + 23 < 200 :=
    ratioScale_lt (f := .single) hden (by decide) h
  have hcoefficient : ratioCoefficient .single num den ≤ 2 ^ 24 :=
    ratioCoefficient_le (f := .single) hden
  refine ofRatio_finite negative hden ?_
  calc ratioScale .single num den * 2 ^ 23 + ratioCoefficient .single num den
      ≤ 176 * 2 ^ 23 + 2 ^ 24 :=
        Nat.add_le_add (Nat.mul_le_mul_right _ (by omega)) hcoefficient
    _ < BinaryFormat.single.infinityMagnitude := by decide

/-- A quotient of at most 24 binary digits is not rounded. -/
theorem units_ofRatio_single (negative : Bool) (hden : 0 < den)
    (h : num * 2 ^ 149 < den * 2 ^ 200) {c j : Nat} (hc : c < 2 ^ 24)
    (hexact : num * 2 ^ 149 = den * (c * 2 ^ j)) :
    (ofRatio .single negative num den).units = c * 2 ^ j :=
  (ofRatio_single_finite negative hden h).2.2.trans
    (ratioCoefficient_of_exact (f := .single) hden hc hexact)

/-- A product of finite numbers, as a quotient. -/
theorem mul_eq_ofRatio_single {x y : Single} (hx : x.IsFinite) (hy : y.IsFinite) :
    x.mul y
      = ofRatio .single (x.negative ^^ y.negative) (x.units * y.units) (2 ^ 149 * 2 ^ 149) := by
  have hunits : 2 ^ (2 * BinaryFormat.single.unitBits) = 2 ^ 149 * 2 ^ 149 := by
    rw [Nat.two_mul, Nat.pow_add]
    rfl
  rw [mul_eq_ofRatio hx hy, hunits]

/-- A quotient that is zero is rounded to zero. -/
theorem units_ofRatio_single_zero (negative : Bool) (hden : 0 < den) :
    (ofRatio .single negative 0 den).units = 0 := by
  have hbound : 0 * 2 ^ 149 < den * 2 ^ 200 := by
    rw [Nat.zero_mul]
    exact Nat.mul_pos hden (Nat.two_pow_pos 200)
  have hexact : 0 * 2 ^ 149 = den * (0 * 2 ^ 0) := by rw [Nat.zero_mul, Nat.zero_mul, Nat.mul_zero]
  exact (units_ofRatio_single negative hden hbound (by decide) hexact).trans (Nat.zero_mul _)

end Binary

namespace Single

open Binary

/-! ## Sizes as floats -/

theorem ofInt_size {size : Int32} (h : 1 ≤ size.toInt) :
    ofInt .single size.toInt = ofRatio .single false size.toInt.natAbs 1 := by
  rw [ofInt, decide_eq_false (by omega)]

theorem natAbs_size_lt {size : Int32} (h : 1 ≤ size.toInt) : size.toInt.natAbs < 2 ^ 31 := by
  have hlt := size.toInt_lt
  omega

/-- The size of an axis is rounded to a number that is not below zero, and not too great. -/
theorem isNonneg_ofInt_size {size : Int32} (h : 1 ≤ size.toInt) :
    (ofInt .single size.toInt).IsNonneg ∧ (ofInt .single size.toInt).units ≤ 2 ^ 181 := by
  have hlt : size.toInt.natAbs * 2 ^ 149 < 1 * 2 ^ 180 := by
    have hsize := natAbs_size_lt h
    omega
  rw [ofInt_size h]
  obtain ⟨hfinite, hsign, hunits⟩ :=
    ofRatio_single_finite false Nat.one_pos (hlt.trans (by decide))
  refine ⟨⟨hfinite, Or.inl hsign⟩, ?_⟩
  have hscale : ratioScale .single size.toInt.natAbs 1 + 23 < 180 :=
    ratioScale_lt (f := .single) Nat.one_pos (by decide) hlt
  have hcoefficient : ratioCoefficient .single size.toInt.natAbs 1 ≤ 2 ^ 24 :=
    ratioCoefficient_le (f := .single) Nat.one_pos
  rw [hunits]
  calc ratioCoefficient .single size.toInt.natAbs 1 * 2 ^ ratioScale .single size.toInt.natAbs 1
      ≤ 2 ^ 24 * 2 ^ 157 :=
        Nat.mul_le_mul hcoefficient (Nat.pow_le_pow_right Nat.two_pos (by omega))
    _ = 2 ^ 181 := by rw [← Nat.pow_add]

/-- A size that is a power of two is not rounded. -/
theorem units_ofInt_two_pow {size : Int32} {k : Nat} (h : size.toInt = 2 ^ k) :
    (ofInt .single size.toInt).units = 2 ^ (k + 149) := by
  have hpos : 1 ≤ size.toInt := by rw [h]; exact_mod_cast Nat.one_le_two_pow
  have habs : size.toInt.natAbs = 2 ^ k := by rw [h]; exact_mod_cast Int.natAbs_natCast (2 ^ k)
  have hlt := natAbs_size_lt hpos
  rw [ofInt_size hpos, habs]
  rw [habs] at hlt
  have hbound : 2 ^ k * 2 ^ 149 < 1 * 2 ^ 200 := by omega
  have hexact : 2 ^ k * 2 ^ 149 = 1 * (1 * 2 ^ (k + 149)) := by
    rw [Nat.one_mul, Nat.one_mul, Nat.pow_add]
  exact (units_ofRatio_single false Nat.one_pos hbound (by decide) hexact).trans (Nat.one_mul _)

/-! ## Positions on an axis -/

/-- A number below one, in units. -/
theorem units_lt_of_lt_one {x : Single} {q : ℚ} (hq : q = x.units / 2 ^ BinaryFormat.single.unitBits)
    (hlt : q < 1) : x.units < 2 ^ 149 := by
  have hunits : (0 : ℚ) < 2 ^ 149 := by positivity
  have hquotient : (x.units : ℚ) / 2 ^ 149 < 1 := hq ▸ hlt
  rw [div_lt_one hunits] at hquotient
  exact_mod_cast hquotient

section Products

variable {x : Single} {size : Int32} (hx : x.IsNonneg) (hunits : x.units < 2 ^ 149)

include hx hunits

/-- The product of a position and a size is not below zero. -/
theorem isNonneg_mul_size (hsize : 1 ≤ size.toInt) :
    (x.mul (ofInt .single size.toInt)).IsNonneg := by
  obtain ⟨hy, hyunits⟩ := isNonneg_ofInt_size hsize
  have hsizesign : (ofInt .single size.toInt).negative = false := by
    rw [ofInt_size hsize]
    refine (ofRatio_single_finite false Nat.one_pos ?_).2.1
    have hlt := natAbs_size_lt hsize
    omega
  have hbound : x.units * (ofInt .single size.toInt).units * 2 ^ 149
      < 2 ^ 149 * 2 ^ 149 * 2 ^ 200 := by
    calc x.units * (ofInt .single size.toInt).units * 2 ^ 149
        ≤ 2 ^ 149 * 2 ^ 181 * 2 ^ 149 :=
          Nat.mul_le_mul_right _ (Nat.mul_le_mul hunits.le hyunits)
      _ < 2 ^ 149 * 2 ^ 149 * 2 ^ 200 := by decide
  rw [mul_eq_ofRatio_single hx.isFinite hy.isFinite, hsizesign]
  obtain ⟨hfinite, hsign, -⟩ := ofRatio_single_finite (x.negative ^^ false)
    (by decide) hbound
  refine ⟨hfinite, ?_⟩
  rcases hx.sign with hpositive | hzero
  · left
    rw [hsign, hpositive]
    rfl
  · right
    rw [hzero, Nat.zero_mul]
    exact units_ofRatio_single_zero _ (by decide)

/-- **A coordinate** lies on the axis. -/
theorem toInt_coordinate_bounds (hsize : 1 ≤ size.toInt) :
    0 ≤ (x.coordinate size).toInt ∧ (x.coordinate size).toInt ≤ size.toInt - 1 := by
  have hproduct := isNonneg_mul_size hx hunits hsize
  rw [coordinate, toInt_min, hproduct.toInt_truncate, toInt_sub_one hsize]
  generalize (x.mul (ofInt .single size.toInt)).units / 2 ^ BinaryFormat.single.unitBits = n
  omega

/-- The product with a power of two is not rounded. -/
theorem units_mul_two_pow {k : Nat} (hsize : size.toInt = 2 ^ k) :
    (x.mul (ofInt .single size.toInt)).units = x.units * 2 ^ k := by
  have hpos : 1 ≤ size.toInt := by rw [hsize]; exact_mod_cast Nat.one_le_two_pow
  have hk : (2 : Nat) ^ k ≤ 2 ^ 31 := by
    have hlt := size.toInt_lt
    rw [hsize] at hlt
    exact_mod_cast hlt.le
  obtain ⟨hy, -⟩ := isNonneg_ofInt_size hpos
  rw [mul_eq_ofRatio_single hx.isFinite hy.isFinite, units_ofInt_two_pow hsize]
  have hexact : x.units * 2 ^ (k + 149) * 2 ^ 149
      = 2 ^ 149 * 2 ^ 149 * (x.coefficient * 2 ^ (x.scale + k)) := by
    rw [units, Nat.pow_add, Nat.pow_add]
    generalize (2 : Nat) ^ 149 = unit
    ring
  have hbound : x.units * 2 ^ (k + 149) * 2 ^ 149
      < 2 ^ 149 * 2 ^ 149 * 2 ^ 200 := by
    calc x.units * 2 ^ (k + 149) * 2 ^ 149
        ≤ 2 ^ 149 * (2 ^ 31 * 2 ^ 149) * 2 ^ 149 := by
          rw [Nat.pow_add]
          exact Nat.mul_le_mul_right _ (Nat.mul_le_mul hunits.le (Nat.mul_le_mul_right _ hk))
      _ < 2 ^ 149 * 2 ^ 149 * 2 ^ 200 := by decide
  rw [units_ofRatio_single _ (by decide) hbound x.coefficient_lt hexact, units,
    Nat.pow_add, Nat.mul_assoc]

/-- **On an axis of a power of two** a coordinate is the product without its fraction. -/
theorem toInt_coordinate_two_pow {k : Nat} (hsize : size.toInt = 2 ^ k) :
    (x.coordinate size).toInt = ((x.units * 2 ^ k / 2 ^ 149 : Nat) : Int) := by
  have hpos : 1 ≤ size.toInt := by rw [hsize]; exact_mod_cast Nat.one_le_two_pow
  have hproduct := isNonneg_mul_size hx hunits hpos
  have hlt : x.units * 2 ^ k / 2 ^ 149 < 2 ^ k := by
    rw [Nat.div_lt_iff_lt_mul (Nat.two_pow_pos 149), Nat.mul_comm (2 ^ k)]
    exact Nat.mul_lt_mul_of_pos_right hunits (Nat.two_pow_pos k)
  have hlt' : ((x.units * 2 ^ k / 2 ^ 149 : Nat) : Int) < size.toInt := by
    rw [hsize]
    exact_mod_cast hlt
  have hmost := size.toInt_lt
  rw [coordinate, toInt_min, hproduct.toInt_truncate, toInt_sub_one hpos,
    units_mul_two_pow hx hunits hsize]
  show min (min 0x7FFFFFFF ((x.units * 2 ^ k / 2 ^ 149 : Nat) : Int)) _ = _
  omega

end Products

/-- A coordinate of a position lies on the axis. -/
theorem coordinate_bounds {x : Single} (hx : x.InUnit) {size : Int32} (hsize : 1 ≤ size.toInt) :
    0 ≤ x.coordinate size ∧ x.coordinate size ≤ size - 1 := by
  obtain ⟨q, hq, hlow, hhigh⟩ := hx
  obtain ⟨hnonneg, hvalue⟩ := isNonneg_of_number? hq hlow
  obtain ⟨hleast, hgreatest⟩ :=
    toInt_coordinate_bounds hnonneg (units_lt_of_lt_one hvalue hhigh) hsize
  rw [Int32.le_iff_toInt_le, Int32.le_iff_toInt_le, toInt_sub_one hsize]
  exact ⟨hleast, hgreatest⟩

/-! ## Exact scaling -/

/-- What positions come to on an axis that they are scaled to without rounding. -/
structure ScalesExactly (size : Int32) : Prop where
  floor : ∀ (x : Single) (q : ℚ), x.number? = some q → 0 ≤ q → q < 1 →
    (x.coordinate size).toInt = ⌊q * size.toInt⌋
  /-- A position that is not before another has a coordinate that is not before the other's. -/
  monotone : ∀ (x y : Single) (p q : ℚ), x.number? = some p → y.number? = some q →
    0 ≤ p → p ≤ q → q < 1 → x.coordinate size ≤ y.coordinate size
  /-- Each coordinate is one of a position, as long as there are enough floats. -/
  reached : size.toInt ≤ 2 ^ 24 → ∀ c : Int32, 0 ≤ c → c < size →
    ∃ x : Single, x.InUnit ∧ x.coordinate size = c

theorem floor_of_two_pow {size : Int32} {k : Nat} (hsize : size.toInt = 2 ^ k) {x : Single} {q : ℚ}
    (hq : x.number? = some q) (hlow : 0 ≤ q) (hhigh : q < 1) :
    (x.coordinate size).toInt = ⌊q * size.toInt⌋ := by
  obtain ⟨hnonneg, hvalue⟩ := isNonneg_of_number? hq hlow
  have hproduct : q * size.toInt = ((x.units * 2 ^ k : Nat) : ℚ) / ((2 ^ 149 : Nat) : ℚ) := by
    have hunitBits : BinaryFormat.single.unitBits = 149 := rfl
    rw [hvalue, hsize, hunitBits]
    push_cast
    ring
  rw [toInt_coordinate_two_pow hnonneg (units_lt_of_lt_one hvalue hhigh) hsize, hproduct,
    Rat.floor_natCast_div_natCast]
  norm_cast

/-- A fraction of an axis with at most 24 binary digits is a float, and has the numerator as its
coordinate. -/
theorem exists_coordinate {size : Int32} {k : Nat} (hsize : size.toInt = 2 ^ k) (hk : k ≤ 24)
    {j : Nat} (hj : j < 2 ^ k) : ∃ x : Single, x.InUnit ∧ (x.coordinate size).toInt = j := by
  have hj24 : j < 2 ^ 24 := Nat.lt_of_lt_of_le hj (Nat.pow_le_pow_right Nat.two_pos hk)
  have hsplit : (2 : Nat) ^ 149 = 2 ^ k * 2 ^ (149 - k) := by
    rw [← Nat.pow_add]
    congr 1
    omega
  have hbound : j * 2 ^ 149 < 2 ^ k * 2 ^ 200 := by
    calc j * 2 ^ 149 < 2 ^ k * 2 ^ 149 := Nat.mul_lt_mul_of_pos_right hj (Nat.two_pow_pos _)
      _ ≤ 2 ^ k * 2 ^ 200 := Nat.mul_le_mul_left _ (by decide)
  obtain ⟨hfinite, hsign, -⟩ := ofRatio_single_finite false (Nat.two_pow_pos k) hbound
  have hunits : (ofRatio .single false j (2 ^ k)).units = j * 2 ^ (149 - k) := by
    refine units_ofRatio_single false (Nat.two_pow_pos k) hbound hj24 ?_
    rw [hsplit]
    ring
  have hlt : (ofRatio .single false j (2 ^ k)).units < 2 ^ 149 := by
    rw [hunits, hsplit]
    exact Nat.mul_lt_mul_of_pos_right hj (Nat.two_pow_pos _)
  have hpow : (0 : ℚ) < 2 ^ 149 := by positivity
  refine ⟨ofRatio .single false j (2 ^ k), ?_, ?_⟩
  · refine ⟨(ofRatio .single false j (2 ^ k)).units / 2 ^ 149, ?_, by positivity, ?_⟩
    · rw [number?, reading_of_isFinite hfinite, hsign]
      rfl
    · rw [div_lt_one hpow]
      exact_mod_cast hlt
  · rw [toInt_coordinate_two_pow ⟨hfinite, Or.inl hsign⟩ hlt hsize, hunits, hsplit]
    congr 1
    rw [Nat.mul_assoc, Nat.mul_comm (2 ^ (149 - k)), Nat.mul_div_cancel _ (by positivity)]

/-- **Powers of two** are sizes that positions are scaled to without rounding. -/
theorem scalesExactly_of_two_pow {size : Int32} {k : Nat} (hsize : size.toInt = 2 ^ k) :
    ScalesExactly size where
  floor := fun x q hq hlow hhigh => floor_of_two_pow hsize hq hlow hhigh
  monotone := by
    intro x y p q hp hq hlow hle hhigh
    rw [Int32.le_iff_toInt_le, floor_of_two_pow hsize hp hlow (hle.trans_lt hhigh),
      floor_of_two_pow hsize hq (hlow.trans hle) hhigh]
    have hpos : (0 : ℚ) ≤ (size.toInt : ℚ) := by
      rw [hsize]
      positivity
    exact Int.floor_le_floor (mul_le_mul_of_nonneg_right hle hpos)
  reached := by
    intro hfew c hleast hless
    rw [Int32.le_iff_toInt_le] at hleast
    rw [Int32.lt_iff_toInt_lt, hsize] at hless
    rw [hsize] at hfew
    have hk : k ≤ 24 := (Nat.pow_le_pow_iff_right Nat.one_lt_two).mp (by exact_mod_cast hfew)
    have hzero : (0 : Int32).toInt = 0 := rfl
    have hj : c.toInt.toNat < 2 ^ k := by
      zify
      omega
    obtain ⟨x, hx, hcoordinate⟩ := exists_coordinate hsize hk hj
    refine ⟨x, hx, Int32.toInt.inj (hcoordinate.trans ?_)⟩
    omega

end Single

end VirtualTouchpad
