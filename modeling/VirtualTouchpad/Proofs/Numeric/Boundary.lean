/-
# Short decimals and the boundaries of 32-bit numbers

The rounding range of a 32-bit number reaches from one boundary to the next,
half a step to each side, unless the step below the number is half as wide.
`eq_or_le_boundary` says how far the shortest decimal of a number is from them:
on a grid that is clearly finer than the step the nearest point of the grid is
far from both, and otherwise `separated` applies.

So a small share of the decimal may be lost without leaving the range, as long as
nothing is lost where the decimal lies on a boundary (`holds_of_near`).
-/
import VirtualTouchpad.Proofs.Numeric.Separation

namespace VirtualTouchpad.Binary

variable {x : Single} {d : Decimal} {M : Nat}

/-- The width of half a step of a number. -/
def halfWidth (x : Single) : ℚ := 2 ^ x.scale / 2 ^ 150

theorem halfWidth_pos (x : Single) : 0 < x.halfWidth := by
  unfold halfWidth; positivity

theorem scale_lt (hx : x.IsFinite) : x.scale < 254 := by
  have hlt := magnitude_lt_of_isFinite hx
  have htop : BinaryFormat.single.infinityMagnitude = 255 * 2 ^ 23 := rfl
  have hfraction : BinaryFormat.single.fractionBits = 23 := rfl
  have hm := x.magnitude_eq
  rcases Nat.eq_zero_or_pos x.scale with h0 | hpos
  · omega
  · have hleast := le_coefficient hpos
    rw [htop] at hlt
    rw [hfraction] at hm hleast
    omega

/-- Whether the step below the number is as wide as the one above it. -/
def IsEven (x : Single) : Prop := ¬ (x.fractionField = 0 ∧ 1 < x.exponentField)

theorem reachDown_of_isEven (h : x.IsEven) : x.reachDown = 2 * 2 ^ x.scale := if_neg h

theorem symmetric_roundingRange (hc : x.coefficient ≠ 0) (h : x.IsEven) :
    x.roundingRange.Symmetric := by
  have hunits := scale_le_units hc
  rw [RoundingRange.Symmetric, roundingRange_eq, reachDown_of_isEven h]
  dsimp only
  omega

/-- In half steps, the value is twice the coefficient. -/
theorem value_eq_halfWidth (x : Single) : x.value = 2 * x.coefficient * x.halfWidth := by
  have hunit : BinaryFormat.single.unitBits = 149 := rfl
  rw [value, units, halfWidth, hunit]
  push_cast
  rw [pow_succ 2 149]
  field_simp

/-- In half steps, the range reaches from one odd number to the next. -/
theorem holds_iff (hc : x.coefficient ≠ 0) (h : x.IsEven) (q : ℚ) :
    x.roundingRange.Holds q ↔
      (2 * x.coefficient - 1 : Nat) * x.halfWidth ≤ q ∧
      q ≤ (2 * x.coefficient + 1 : Nat) * x.halfWidth ∧
      (x.coefficient % 2 = 0 ∨
        (2 * x.coefficient - 1 : Nat) * x.halfWidth < q ∧
        q < (2 * x.coefficient + 1 : Nat) * x.halfWidth) := by
  have hden : (0 : ℚ) < x.roundingRange.denominator := by
    exact_mod_cast (proper_roundingRange hc).denominator_pos
  have hstep : x.halfWidth * x.roundingRange.denominator = 2 * 2 ^ x.scale := by
    have hunit : BinaryFormat.single.unitBits = 149 := rfl
    rw [halfWidth, roundingRange_eq, hunit]
    push_cast
    rw [pow_succ 2 149]
    field_simp
    norm_num
  have hlow : (x.roundingRange.low : ℚ) =
      (2 * x.coefficient - 1 : Nat) * x.halfWidth * x.roundingRange.denominator := by
    have hle : 2 * 2 ^ x.scale ≤ 4 * (x.coefficient * 2 ^ x.scale) := by
      have := scale_le_units hc
      omega
    rw [mul_assoc, hstep, roundingRange_eq, reachDown_of_isEven h, Nat.cast_sub hle,
      Nat.cast_sub (by omega)]
    push_cast
    ring
  have hhigh : (x.roundingRange.high : ℚ) =
      (2 * x.coefficient + 1 : Nat) * x.halfWidth * x.roundingRange.denominator := by
    rw [mul_assoc, hstep, roundingRange_eq]
    push_cast
    ring
  have hclosed : x.roundingRange.closed = true ↔ x.coefficient % 2 = 0 := by
    rw [roundingRange_eq, decide_eq_true_iff]
  rw [RoundingRange.Holds, hlow, hhigh, hclosed, mul_le_mul_iff_of_pos_right hden,
    mul_le_mul_iff_of_pos_right hden, mul_lt_mul_iff_of_pos_right hden,
    mul_lt_mul_iff_of_pos_right hden]

/-- The shortest decimal of a number is on a boundary or keeps away from it. -/
theorem eq_or_le_boundary (hx : x.IsFinite) (hc : x.coefficient ≠ 0) (heven : x.IsEven)
    (hd : x.IsShortest d) (hM : M = 2 * x.coefficient - 1 ∨ M = 2 * x.coefficient + 1)
    (hne : (x.scale, M) ≠ exceptionalBoundary) :
    d.value = M * x.halfWidth ∨ 17 / 2 ^ 56 * (M * x.halfWidth) ≤ |d.value - M * x.halfWidth| := by
  have hlt : x.coefficient < 2 ^ 24 := x.coefficient_lt
  have hM₂ : M < 2 ^ 25 := by omega
  rcases Int.lt_or_le d.exponent (gridExponent x.scale) with hfine | hcoarse
  · right
    have hgrid := ten_zpow_le_of_lt_gridExponent (scale_lt hx) hfine
    have hnear := hd.near (symmetric_roundingRange hc heven)
    have hwidth : (2 : ℚ) ^ x.scale / 2 ^ 149 = 2 * x.halfWidth := by
      rw [halfWidth, pow_succ 2 149]; field_simp
    have hpos := x.halfWidth_pos
    -- the boundary is half a step from the number, which the decimal is nearer to
    have haway : |x.value - M * x.halfWidth| = x.halfWidth := by
      rw [value_eq_halfWidth]
      rcases hM with rfl | rfl
      · rw [Nat.cast_sub (by omega)]
        push_cast
        rw [← sub_mul, show (2 * x.coefficient - (2 * x.coefficient - 1) : ℚ) = 1 by ring, one_mul,
          abs_of_pos hpos]
      · push_cast
        rw [← sub_mul, show (2 * x.coefficient - (2 * x.coefficient + 1) : ℚ) = -1 by ring,
          neg_one_mul, abs_neg, abs_of_pos hpos]
    have hM₃ : (M : ℚ) ≤ 2 ^ 25 := by exact_mod_cast hM₂.le
    have htriangle := abs_sub_le x.value d.value (M * x.halfWidth)
    rw [haway, abs_sub_comm x.value] at htriangle
    rw [hwidth] at hgrid
    have hbound : (M : ℚ) * x.halfWidth ≤ 2 ^ 25 * x.halfWidth :=
      mul_le_mul_of_nonneg_right hM₃ hpos.le
    linarith
  · exact separated (scale_lt hx) (by omega) hM₂ hne hcoarse

/-- A decimal with so few digits lies on a boundary only if its exponent is small. -/
theorem natAbs_exponent_le (hd : x.IsShortest d) (hM₂ : M < 2 ^ 25) (hM : 0 < M)
    (h : d.value = M * x.halfWidth) : d.exponent.natAbs ≤ 22 := by
  have hdigits : d.digits < 2 ^ 30 := hd.digits_lt
  have hpos := hd.digits_pos
  have hcoprime : ∀ k n : Nat, Nat.Coprime (5 ^ k) (2 ^ n) := fun k n =>
    Nat.Coprime.pow k n (by decide)
  -- powers of five are too great to divide the digits or the boundary
  have hfive : ∀ {k m : Nat}, 0 < m → m < 2 ^ 30 → 5 ^ k ∣ m → k ≤ 22 := by
    intro k m hm hlt hdvd
    by_contra hk
    have hle := (Nat.pow_le_pow_right (n := 5) (by decide) (show 23 ≤ k by omega)).trans
      (Nat.le_of_dvd hm hdvd)
    have : 2 ^ 30 < 5 ^ 23 := by decide
    omega
  rw [Decimal.value, halfWidth, mul_div_assoc', eq_div_iff (by positivity)] at h
  rcases Int.le_total 0 d.exponent with hexp | hexp
  · obtain ⟨k, hk⟩ := Int.eq_ofNat_of_zero_le hexp
    rw [hk, zpow_natCast] at h
    have hnat : d.digits * 10 ^ k * 2 ^ 150 = M * 2 ^ x.scale := by exact_mod_cast h
    have hdvd : 5 ^ k ∣ M * 2 ^ x.scale := by
      rw [← hnat, show 10 ^ k = 2 ^ k * 5 ^ k by rw [← Nat.mul_pow]]
      exact ⟨d.digits * 2 ^ k * 2 ^ 150, by ring⟩
    have := hfive hM (by omega) ((hcoprime k _).dvd_of_dvd_mul_right hdvd)
    omega
  · obtain ⟨k, hk⟩ := Int.eq_ofNat_of_zero_le (Int.neg_nonneg_of_nonpos hexp)
    have hneg : d.exponent = -(k : Int) := by omega
    rw [hneg, zpow_neg, zpow_natCast, ← div_eq_mul_inv, div_mul_eq_mul_div,
      div_eq_iff (by positivity)] at h
    have hnat : d.digits * 2 ^ 150 = M * 2 ^ x.scale * 10 ^ k := by exact_mod_cast h
    have hdvd : 5 ^ k ∣ d.digits * 2 ^ 150 := by
      rw [hnat, show 10 ^ k = 2 ^ k * 5 ^ k by rw [← Nat.mul_pow]]
      exact ⟨M * 2 ^ x.scale * 2 ^ k, by ring⟩
    have := hfive hpos hdigits ((hcoprime k _).dvd_of_dvd_mul_right hdvd)
    omega

/-- A boundary has few enough binary digits for 64 bits. -/
theorem boundary_eq (x : Single) (M : Nat) :
    (M * x.halfWidth : ℚ) =
      M * 2 ^ (x.scale + 924) / 2 ^ BinaryFormat.double.unitBits := by
  have hunit : BinaryFormat.double.unitBits = 150 + 924 := rfl
  rw [hunit, halfWidth, pow_add, pow_add, mul_div_assoc', ← mul_assoc, mul_div_mul_right]
  positivity

/-- The share of a decimal that may be lost on the way. -/
def slack : ℚ := 1 / 2 ^ 52 + 1 / 2 ^ 100

/-- What is near the shortest decimal of a number, and equal to it if that has few enough binary
digits and a small exponent, is in the rounding range of the number. -/
theorem holds_of_near {q : ℚ} (hx : x.IsFinite) (hc : x.coefficient ≠ 0) (heven : x.IsEven)
    (hlow : (x.scale, 2 * x.coefficient - 1) ≠ exceptionalBoundary)
    (hhigh : (x.scale, 2 * x.coefficient + 1) ≠ exceptionalBoundary)
    (hd : x.IsShortest d) (hnear : |q - d.value| ≤ d.value * slack)
    (hexact : d.exponent.natAbs ≤ 22 → ∀ c j : Nat, c < 2 ^ 53 →
      d.value = c * 2 ^ j / 2 ^ BinaryFormat.double.unitBits → q = d.value) :
    x.roundingRange.Holds q := by
  have hlt : x.coefficient < 2 ^ 24 := x.coefficient_lt
  have hpos := x.halfWidth_pos
  -- on a boundary nothing is lost
  have hon : ∀ M : Nat, 0 < M → M < 2 ^ 25 → d.value = M * x.halfWidth → q = d.value :=
    fun M hM hM₂ hvalue => hexact (natAbs_exponent_le hd hM₂ hM hvalue) M (x.scale + 924)
      (by omega) (hvalue.trans (boundary_eq x M))
  have hholds := hd.holds
  rcases eq_or_le_boundary hx hc heven hd (.inl rfl) hlow with hbelow | hbelow
  · rwa [hon _ (by omega) (by omega) hbelow]
  rcases eq_or_le_boundary hx hc heven hd (.inr rfl) hhigh with habove | habove
  · rwa [hon _ (by omega) (by omega) habove]
  rw [holds_iff hc heven] at hholds ⊢
  obtain ⟨hge, hle, -⟩ := hholds
  rw [abs_of_nonneg (by linarith)] at hbelow
  rw [abs_of_nonpos (by linarith)] at habove
  obtain ⟨hloss, hgain⟩ := abs_le.1 hnear
  simp only [slack] at hloss hgain
  have hc' : 0 < 2 * x.coefficient - 1 := by omega
  have hfirst : (0 : ℚ) < (2 * x.coefficient - 1 : Nat) * x.halfWidth :=
    mul_pos (by exact_mod_cast hc') hpos
  have hlast : (0 : ℚ) < (2 * x.coefficient + 1 : Nat) * x.halfWidth :=
    mul_pos (by exact_mod_cast Nat.succ_pos _) hpos
  generalize ((2 * x.coefficient - 1 : Nat) : ℚ) * x.halfWidth = low at *
  generalize ((2 * x.coefficient + 1 : Nat) : ℚ) * x.halfWidth = high at *
  have hinside : low < q ∧ q < high := ⟨by linarith, by linarith⟩
  exact ⟨hinside.1.le, hinside.2.le, .inr hinside⟩

end VirtualTouchpad.Binary
