/-
# Detents of scroll amounts

A scroll amount becomes four times as many detents, rounded away from zero.  The product
of floats is exact unless it overflows, and where it does the detents are as far from zero
as 32 bits allow anyway; so they are those of the rational number that the float is
(`Single.toInt_detents`), for every float but a NaN.

What follows about amounts between minus one and one is read off `detentsOf`: it is odd and
monotone, and zero only for zero.
-/
import Mathlib.Data.Sign.Basic
import VirtualTouchpad.Proofs.Numeric.Coordinates

namespace VirtualTouchpad

/-! ## Detents of rational numbers -/

/-- Four times a number, rounded away from zero. -/
def detentsOf (q : ℚ) : Int := SignType.sign q * ⌈4 * |q|⌉

/-- Rounding a quotient up is rounding down a greater one. -/
theorem ceil_natCast_div (n : Nat) {unit : Nat} (h : 0 < unit) :
    ⌈(n : ℚ) / unit⌉ = ((n + unit - 1) / unit : Nat) := by
  have hunit : (0 : ℚ) < unit := by exact_mod_cast h
  have hlow : (n + unit - 1) / unit * unit ≤ n + unit - 1 := Nat.div_mul_le_self _ _
  have hhigh : n + unit - 1 < (n + unit - 1) / unit * unit + unit := Nat.lt_div_mul_add h
  generalize (n + unit - 1) / unit = quotient at hlow hhigh
  have hbelow : quotient * unit < n + unit := by omega
  have habove : n ≤ quotient * unit := by omega
  rw [Int.ceil_eq_iff, lt_div_iff₀ hunit, div_le_iff₀ hunit]
  constructor
  · have hcast : ((quotient * unit : Nat) : ℚ) < ((n + unit : Nat) : ℚ) := by exact_mod_cast hbelow
    push_cast at hcast ⊢
    linarith
  · exact_mod_cast habove

/-- The 32-bit integer nearest to a whole number, as a whole number. -/
def within32 (n : Int) : Int := max (-0x80000000) (min 0x7FFFFFFF n)

theorem detentsOf_neg (q : ℚ) : detentsOf (-q) = -detentsOf q := by
  rw [detentsOf, detentsOf, abs_neg, Left.sign_neg, SignType.coe_neg, neg_mul]

theorem detentsOf_of_nonneg {q : ℚ} (h : 0 ≤ q) : detentsOf q = ⌈4 * q⌉ := by
  rcases h.eq_or_lt with rfl | hpos
  · simp [detentsOf]
  · rw [detentsOf, sign_pos hpos, abs_of_pos hpos, SignType.coe_one, one_mul]

/-- Numbers that are not below zero give no detents below zero. -/
theorem detentsOf_nonneg {q : ℚ} (h : 0 ≤ q) : 0 ≤ detentsOf q := by
  rw [detentsOf_of_nonneg h]
  exact Int.ceil_nonneg (by linarith)

/-- **Detents** are as many for a greater number or more. -/
theorem detentsOf_mono {p q : ℚ} (h : p ≤ q) : detentsOf p ≤ detentsOf q := by
  have hpos : ∀ {p q : ℚ}, 0 ≤ p → p ≤ q → detentsOf p ≤ detentsOf q := by
    intro p q hp hpq
    rw [detentsOf_of_nonneg hp, detentsOf_of_nonneg (hp.trans hpq)]
    exact Int.ceil_le_ceil (by linarith)
  rcases le_or_gt 0 p with hp | hp
  · exact hpos hp h
  rcases le_or_gt 0 q with hq | hq
  · have hless := detentsOf_nonneg (neg_nonneg.mpr hp.le)
    have hmore := detentsOf_nonneg hq
    rw [detentsOf_neg] at hless
    omega
  · -- Below zero the order turns around twice.
    have hneg := hpos (neg_nonneg.mpr hq.le) (neg_le_neg h)
    rw [detentsOf_neg, detentsOf_neg] at hneg
    omega

/-- A number above zero gives a detent at least. -/
theorem detentsOf_pos {q : ℚ} (h : 0 < q) : 0 < detentsOf q := by
  rw [detentsOf_of_nonneg h.le]
  exact Int.ceil_pos.mpr (by linarith)

/-- Only zero gives no detents. -/
theorem detentsOf_eq_zero_iff {q : ℚ} : detentsOf q = 0 ↔ q = 0 := by
  constructor
  · intro h
    by_contra hne
    rcases lt_or_gt_of_ne hne with hneg | hpos
    · have hopposite := detentsOf_pos (neg_pos.mpr hneg)
      rw [detentsOf_neg] at hopposite
      omega
    · exact (detentsOf_pos hpos).ne' h
  · rintro rfl
    simp [detentsOf]

/-- A number from minus one to one gives at most four detents either way. -/
theorem detentsOf_bounds {q : ℚ} (hlow : -1 ≤ q) (hhigh : q ≤ 1) :
    -4 ≤ detentsOf q ∧ detentsOf q ≤ 4 := by
  have hone : detentsOf 1 = 4 := by rw [detentsOf_of_nonneg zero_le_one]; norm_num
  have hleast := detentsOf_mono hlow
  have hmost := detentsOf_mono hhigh
  rw [detentsOf_neg, hone] at hleast
  rw [hone] at hmost
  exact ⟨hleast, hmost⟩

/-- Few detents fit 32 bits. -/
theorem within32_detentsOf {q : ℚ} (hlow : -1 ≤ q) (hhigh : q ≤ 1) :
    within32 (detentsOf q) = detentsOf q := by
  obtain ⟨hleast, hmost⟩ := detentsOf_bounds hlow hhigh
  rw [within32]
  omega

/-! ## Floats as numbers -/

namespace Binary

variable {f : BinaryFormat} {x : Binary f} {q : ℚ}

/-- A float that is a number is finite, and its sign and units say which. -/
theorem eq_of_number? (h : x.number? = some q) :
    x.IsFinite ∧ q = signed x.negative x.units / 2 ^ f.unitBits := by
  have hfinite : x.IsFinite := by
    intro htop
    rw [number?, reading, if_pos htop] at h
    by_cases hfraction : x.fractionField = 0
    · simp [hfraction] at h
    · simp [hfraction] at h
  rw [number?, reading_of_isFinite hfinite] at h
  exact ⟨hfinite, (Option.some.inj h).symm⟩

theorem number?_neg (h : x.number? = some q) : x.neg.number? = some (-q) := by
  obtain ⟨hfinite, rfl⟩ := eq_of_number? h
  have hneg : x.neg.IsFinite := (isFinite_congr x.magnitude_neg).mpr hfinite
  rw [number?, reading_of_isFinite hneg, negative_neg, units_congr x.magnitude_neg]
  cases x.negative <;> simp [signed, neg_div]

/-- The float zero, with either sign, is what the number zero is. -/
theorem number?_eq_zero_iff {x : Single} :
    x.number? = some 0 ↔ x = zero .single false ∨ x = zero .single true := by
  constructor
  · intro h
    obtain ⟨hfinite, hq⟩ := eq_of_number? h
    have hunits : x.units = 0 := by
      have hpow : (2 : ℚ) ^ BinaryFormat.single.unitBits ≠ 0 := by positivity
      have hzero := (div_eq_zero_iff.mp hq.symm).resolve_right hpow
      rw [signed] at hzero
      split at hzero <;> simpa using hzero
    have hcoefficient : x.coefficient = 0 :=
      (Nat.mul_eq_zero.mp hunits).resolve_right (Nat.two_pow_pos _).ne'
    have hmagnitude : x.magnitude = 0 := by
      have hscale : x.scale = 0 := by
        by_contra hne
        have hle := le_coefficient (Nat.pos_of_ne_zero hne)
        have hpos := Nat.two_pow_pos BinaryFormat.single.fractionBits
        omega
      rw [x.magnitude_eq, hscale, hcoefficient, Nat.zero_mul]
    have hself := ofMagnitude_self x
    rw [hmagnitude] at hself
    cases hsign : x.negative with
    | false => exact Or.inl (by rw [← hself, hsign, zero])
    | true => exact Or.inr (by rw [← hself, hsign, zero])
  · have hparts : ∀ negative, (zero .single negative).IsFinite
        ∧ (zero .single negative).units = 0 := by decide
    have hnumber : ∀ negative, (zero .single negative).number? = some 0 := by
      intro negative
      obtain ⟨hfinite, hunits⟩ := hparts negative
      rw [number?, reading_of_isFinite hfinite, hunits]
      simp [signed]
    rintro (rfl | rfl)
    · exact hnumber false
    · exact hnumber true

end Binary

/-! ## Detents of floats -/

namespace Single

open Binary

variable {x : Single}

/-- Four, as a float. -/
theorem four_spec : four.IsFinite ∧ four.negative = false ∧ four.units = 4 * 2 ^ 149 := by
  decide +kernel

theorem four_mul_eq (hx : x.IsFinite) :
    four.mul x = ofRatio .single x.negative (4 * 2 ^ 149 * x.units) (2 ^ 149 * 2 ^ 149) := by
  obtain ⟨hfinite, hsign, hunits⟩ := four_spec
  rw [mul_eq_ofRatio_single hfinite hx, hsign, hunits, Bool.false_xor]

/-- **Four times a number** is exact, or beyond all 32-bit integers. -/
theorem reading_four_mul (hx : x.IsFinite) :
    (four.mul x).reading = .finite x.negative (4 * x.units)
      ∨ (four.mul x).reading = .infinite x.negative ∧ 2 ^ 180 ≤ 4 * x.units := by
  have hden : 0 < 2 ^ 149 * 2 ^ 149 := by decide
  have hexact : 4 * 2 ^ 149 * x.units * 2 ^ 149
      = 2 ^ 149 * 2 ^ 149 * (x.coefficient * 2 ^ (x.scale + 2)) := by
    rw [units, Nat.pow_add]
    generalize (2 : Nat) ^ 149 = unit
    ring
  have hunits : x.coefficient * 2 ^ (x.scale + 2) = 4 * x.units := by
    rw [units, Nat.pow_add]
    ring
  rw [four_mul_eq hx]
  by_cases hlt : ratioScale .single (4 * 2 ^ 149 * x.units) (2 ^ 149 * 2 ^ 149)
        * 2 ^ BinaryFormat.single.fractionBits
      + ratioCoefficient .single (4 * 2 ^ 149 * x.units) (2 ^ 149 * 2 ^ 149)
        < BinaryFormat.single.infinityMagnitude
  · left
    obtain ⟨hfinite, hsign, hproduct⟩ := ofRatio_finite (f := .single) x.negative hden hlt
    rw [reading_of_isFinite hfinite, hsign, hproduct,
      ratioCoefficient_of_exact (f := .single) hden x.coefficient_lt hexact, hunits]
  · right
    have hfraction : BinaryFormat.single.fractionBits = 23 := rfl
    have htop : BinaryFormat.single.infinityMagnitude = 255 * 2 ^ 23 := rfl
    have hcoefficient : ratioCoefficient .single (4 * 2 ^ 149 * x.units) (2 ^ 149 * 2 ^ 149)
        ≤ 2 ^ 24 := ratioCoefficient_le (f := .single) hden
    have hscale : 253 ≤ ratioScale .single (4 * 2 ^ 149 * x.units) (2 ^ 149 * 2 ^ 149) := by
      rw [hfraction, htop] at hlt
      omega
    have hinfinity : ∀ negative, (infinity .single negative).reading = .infinite negative := by
      decide +kernel
    constructor
    · rw [ofRatio_eq, Nat.min_eq_right (Nat.not_lt.mp hlt)]
      exact hinfinity x.negative
    · have hfull := le_of_ratioScale (f := .single) (Nat.lt_of_lt_of_le (by decide) hscale)
      have hpow : 2 ^ 253 ≤ 2 ^ ratioScale .single (4 * 2 ^ 149 * x.units) (2 ^ 149 * 2 ^ 149) :=
        Nat.pow_le_pow_right Nat.two_pos hscale
      have hle : 2 ^ 149 * 2 ^ 149 * 2 ^ 180 ≤ 2 ^ 149 * 2 ^ 149 * (4 * x.units) := by
        calc 2 ^ 149 * 2 ^ 149 * 2 ^ 180
            ≤ 2 ^ 149 * 2 ^ 149 * 2 ^ 253 * 2 ^ 23 := by decide
          _ ≤ _ := Nat.mul_le_mul_right _ (Nat.mul_le_mul_left _ hpow)
          _ ≤ 4 * 2 ^ 149 * x.units * 2 ^ 149 := hfull
          _ = 2 ^ 149 * 2 ^ 149 * (4 * x.units) := by rw [hexact, hunits]
      exact Nat.le_of_mul_le_mul_left hle hden

/-- The detents of a number, by its units. -/
theorem detentsOf_units (negative : Bool) (units : Nat) {unit : Nat} (h : 0 < unit) :
    detentsOf (signed negative units / unit) = signed negative ((4 * units + unit - 1) / unit) := by
  have hpositive : detentsOf (units / unit) = ((4 * units + unit - 1) / unit : Nat) := by
    have hquotient : (4 : ℚ) * (units / unit) = ((4 * units : Nat) : ℚ) / unit := by
      push_cast
      ring
    rw [detentsOf_of_nonneg (by positivity), hquotient, ceil_natCast_div _ h]
  cases negative with
  | false => simpa [signed] using hpositive
  | true =>
    rw [signed, signed, if_pos rfl, if_pos rfl, ← hpositive, ← detentsOf_neg, Int.cast_neg, neg_div]
    rfl

/-- Rounding away from zero, by units. -/
theorem roundOut_of_finite {negative : Bool} {units : Nat} (h : x.reading = .finite negative units) :
    x.roundOut = saturate (signed negative ((units + 2 ^ 149 - 1) / 2 ^ 149)) := by
  have hunit : twoTo BinaryFormat.single.unitBits = 2 ^ 149 := rfl
  rw [roundOut, h]
  simp only [hunit]

/-- **The detents of a float** are those of the number that it is, within 32 bits. -/
theorem toInt_detents {q : ℚ} (h : x.number? = some q) :
    x.detents.toInt = within32 (detentsOf q) := by
  obtain ⟨hfinite, rfl⟩ := eq_of_number? h
  have hunit : (2 : ℚ) ^ BinaryFormat.single.unitBits = (2 ^ 149 : Nat) := by
    rw [show BinaryFormat.single.unitBits = 149 from rfl]
    push_cast
    rfl
  rw [hunit, detentsOf_units _ _ (Nat.two_pow_pos 149), detents, within32]
  rcases reading_four_mul hfinite with hexact | ⟨hover, hbig⟩
  · rw [roundOut_of_finite hexact, toInt_saturate]
  · have hsaturated : (four.mul x).roundOut = saturate (signed x.negative 0x80000000) := by
      rw [roundOut, hover]
    rw [hsaturated, toInt_saturate]
    have hceil : 2 ^ 31 ≤ (4 * x.units + 2 ^ 149 - 1) / 2 ^ 149 := by omega
    rw [signed, signed]
    split <;> omega

/-- An infinity has as many detents as 32 bits allow. -/
theorem toInt_detents_of_infinite {negative : Bool} (h : x.reading = .infinite negative) :
    x.detents.toInt = if negative then -0x80000000 else 0x7FFFFFFF := by
  obtain ⟨hfinite, hsign, hunits⟩ := four_spec
  have hfour : four.reading = .finite false (4 * 2 ^ 149) := by
    rw [reading_of_isFinite hfinite, hsign, hunits]
  have hproduct : four.mul x = infinity .single negative := by
    rw [mul, hfour, h]
    simp
  have hends : ∀ negative, ((infinity .single negative).roundOut).toInt
      = if negative then -0x80000000 else 0x7FFFFFFF := by decide +kernel
  rw [detents, hproduct, hends]

/-- A NaN has none. -/
theorem detents_of_nan (h : x.reading = .nan) : x.detents = 0 := by
  have hproduct : four.mul x = nan .single := by
    rw [mul, h]
    cases four.reading <;> rfl
  have hnone : (nan .single).roundOut = 0 := by decide +kernel
  rw [detents, hproduct, hnone]

/-! ## Scroll amounts -/

/-- A scroll amount has the detents of its number. -/
theorem toInt_detents_of_inSpan (h : x.InSpan) :
    ∃ q, x.number? = some q ∧ -1 ≤ q ∧ q ≤ 1 ∧ x.detents.toInt = detentsOf q := by
  obtain ⟨q, hq, hlow, hhigh⟩ := h
  exact ⟨q, hq, hlow, hhigh, (toInt_detents hq).trans (within32_detentsOf hlow hhigh)⟩

theorem inSpan_neg (h : x.InSpan) : InSpan x.neg := by
  obtain ⟨q, hq, hlow, hhigh⟩ := h
  exact ⟨-q, number?_neg hq, neg_le_neg hhigh, by linarith⟩

/-- **Only zero** scrolls by nothing. -/
theorem detents_eq_zero_iff (h : x.InSpan) : x.detents = 0 ↔ x.number? = some 0 := by
  obtain ⟨q, hq, -, -, hdetents⟩ := toInt_detents_of_inSpan h
  have hzero : (0 : Int32).toInt = 0 := rfl
  rw [← Int32.toInt_inj, hzero, hdetents, detentsOf_eq_zero_iff, hq, Option.some.injEq]

/-- What the detents of scroll amounts are like. -/
structure DetentsFit : Prop where
  odd : ∀ x : Single, x.InSpan → InSpan x.neg ∧ detents x.neg = -x.detents
  monotone : ∀ (x y : Single) (p q : ℚ), x.number? = some p → y.number? = some q →
    -1 ≤ p → p ≤ q → q ≤ 1 → x.detents ≤ y.detents
  bounds : ∀ x : Single, x.InSpan → -4 ≤ x.detents ∧ x.detents ≤ 4
  zero : ∀ x : Single, x.InSpan →
    (x.detents = 0 ↔ x = Binary.zero .single false ∨ x = Binary.zero .single true)

theorem detentsFit : DetentsFit where
  odd := by
    intro x hx
    obtain ⟨q, hq, hlow, hhigh, hdetents⟩ := toInt_detents_of_inSpan hx
    have hneg : (detents x.neg).toInt = detentsOf (-q) :=
      (toInt_detents (number?_neg hq)).trans
        (within32_detentsOf (neg_le_neg hhigh) (by linarith))
    obtain ⟨hleast, hmost⟩ := detentsOf_bounds hlow hhigh
    have hopposite : (-x.detents).toInt = -x.detents.toInt := by
      rw [Int32.toInt_neg, hdetents, Int.bmod_eq_of_le] <;> omega
    refine ⟨inSpan_neg hx, Int32.toInt.inj ?_⟩
    rw [hneg, hopposite, hdetents, detentsOf_neg]
  monotone := by
    intro x y p q hp hq hlow hle hhigh
    rw [Int32.le_iff_toInt_le, toInt_detents hp, toInt_detents hq,
      within32_detentsOf hlow (hle.trans hhigh), within32_detentsOf (hlow.trans hle) hhigh]
    exact detentsOf_mono hle
  bounds := by
    intro x hx
    obtain ⟨q, -, hlow, hhigh, hdetents⟩ := toInt_detents_of_inSpan hx
    rw [Int32.le_iff_toInt_le, Int32.le_iff_toInt_le, hdetents]
    exact detentsOf_bounds hlow hhigh
  zero := fun x hx => (detents_eq_zero_iff hx).trans number?_eq_zero_iff

end Single

end VirtualTouchpad
