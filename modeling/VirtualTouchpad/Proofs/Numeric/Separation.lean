/-
# How near a short decimal can be to a boundary

Between two neighbouring 32-bit numbers lies a boundary, an odd count of half
steps.  `separated` says that a decimal whose grid is about as coarse as the
step of the numbers is a boundary or keeps away from it, by `17 / 2 ^ 56` of it
at least.  It has one exception, which `exceptionalBoundary` names.

Boundary and grid have a ratio that depends on the scale alone.  A fraction that
is nearer to that ratio than two neighbouring convergents of it has a greater
denominator than both (`mul_or_le_of_convergents`), so for each of the 254
scales it is enough to look at two convergents.
-/
import Mathlib.Algebra.Order.Group.Int
import Mathlib.Algebra.Order.Ring.Int
import Mathlib.Algebra.Order.Group.Unbundled.Abs
import Mathlib.Tactic.LinearCombination
import VirtualTouchpad.Proofs.Numeric.Shortest

namespace VirtualTouchpad

/-! ## Fractions near a ratio -/

section Convergents

variable {A B h₁ k₁ h₂ k₂ M D : Int}

/-- Two fractions with determinant one that lie on either side of `A / B`: any fraction with a
denominator below the second one's is a multiple of the first, or off by more than both. -/
theorem mul_or_le_of_convergents (hdet : (h₁ * k₂ - h₂ * k₁) ^ 2 = 1)
    (hsides : (k₁ * A - h₁ * B) * (k₂ * A - h₂ * B) ≤ 0) (hk₁ : 0 ≤ k₁) (hM : 0 < M)
    (hM₂ : M < k₂) :
    (∃ a, M = a * k₁ ∧ D = a * h₁) ∨
      |k₁ * A - h₁ * B| + |k₂ * A - h₂ * B| ≤ |M * A - D * B| := by
  -- the fraction as a combination of the two
  obtain ⟨a, b, hMab, hDab⟩ : ∃ a b, M = a * k₁ + b * k₂ ∧ D = a * h₁ + b * h₂ := by
    refine ⟨(h₁ * k₂ - h₂ * k₁) * (D * k₂ - M * h₂),
      (h₁ * k₂ - h₂ * k₁) * (M * h₁ - D * k₁), ?_, ?_⟩
    · linear_combination -M * hdet
    · linear_combination -D * hdet
  rcases eq_or_ne b 0 with rfl | hb
  · exact .inl ⟨a, by simpa using hMab, by simpa using hDab⟩
  right
  have hsplit : M * A - D * B = a * (k₁ * A - h₁ * B) + b * (k₂ * A - h₂ * B) := by
    rw [hMab, hDab]; ring
  -- one of the two is added and the other is taken away
  have hopposite : a * b < 0 := by
    rcases lt_or_gt_of_ne hb with hneg | hpos
    · have : 0 < a := by
        by_contra hle
        nlinarith
      exact mul_neg_of_pos_of_neg this hneg
    · have : a < 0 := by
        by_contra hle
        nlinarith
      exact mul_neg_of_neg_of_pos this hpos
  have hsame : 0 ≤ a * (k₁ * A - h₁ * B) * (b * (k₂ * A - h₂ * B)) := by
    have := mul_nonneg_of_nonpos_of_nonpos hopposite.le hsides
    linarith [mul_mul_mul_comm a (k₁ * A - h₁ * B) b (k₂ * A - h₂ * B)]
  have habs : |a * (k₁ * A - h₁ * B) + b * (k₂ * A - h₂ * B)| =
      |a| * |k₁ * A - h₁ * B| + |b| * |k₂ * A - h₂ * B| := by
    rw [← abs_mul, ← abs_mul]
    exact abs_add_eq_add_abs_iff _ _ |>.2 (mul_nonneg_iff.1 hsame)
  have ha : a ≠ 0 := by rintro rfl; simp at hopposite
  rw [hsplit, habs]
  exact add_le_add (le_mul_of_one_le_left (abs_nonneg _) (Int.one_le_abs ha))
    (le_mul_of_one_le_left (abs_nonneg _) (Int.one_le_abs hb))

end Convergents

/-- A fraction as it is written, which need not be in lowest terms. -/
structure Fraction where
  num : Nat
  den : Nat

/-- `count` steps from one fraction in the direction of another. -/
def Fraction.plus (u w : Fraction) (count : Nat) : Fraction :=
  ⟨u.num + count * w.num, u.den + count * w.den⟩

/-- Of the convergents of `a / b`, the last with a denominator below `bound`, and the fraction next
to it on the other side whose denominator is the least from `bound` on; `u` and `w` are the two
convergents before. -/
def convergents (bound : Nat) : Nat → Nat → Nat → Fraction → Fraction → Fraction × Fraction
  | 0, _, _, u, w => (u, w)
  | steps + 1, a, b, u, w =>
    let next := u.plus w (if b = 0 then bound else a / b)
    if bound ≤ next.den then (w, u.plus w ((bound - u.den + w.den - 1) / w.den))
    else convergents bound steps b (a % b) w next

/-! ## Grids and boundaries -/

/-- The least exponent of ten of a grid that is not clearly finer than the numbers of a scale. -/
def gridExponent (s : Nat) : Int := -((149 - s : Int) * 30103 / 100000)

/-- The numerator of the ratio of half a step at a scale to its grid. -/
def halfStep (s : Nat) : Nat := 2 ^ s * 10 ^ (-gridExponent s).toNat

/-- The denominator of that ratio. -/
def gridStep (s : Nat) : Nat := 2 ^ 150 * 10 ^ (gridExponent s).toNat

/-- The two convergents of the ratio that decide on boundaries below `2 ^ 25`. -/
def decisive (s : Nat) : Fraction × Fraction :=
  convergents (2 ^ 25) 40 (halfStep s) (gridStep s) ⟨0, 1⟩ ⟨1, 0⟩

/-- How far a fraction is from the ratio, times both denominators. -/
def Fraction.offset (u : Fraction) (s : Nat) : Int := u.den * halfStep s - u.num * gridStep s

/-- The one boundary that a short decimal comes too near to. -/
def exceptionalBoundary : Nat × Nat := (42, 22841339)

/-- Two fractions that enclose the ratio at a scale, and neither they nor a combination of them
comes near it. -/
structure Decides (s : Nat) (u w : Fraction) : Prop where
  determinant : (u.num * w.den - w.num * u.den : Int) ^ 2 = 1
  enclose : u.offset s * w.offset s ≤ 0
  bound_le : 2 ^ 25 ≤ w.den
  first : u.offset s = 0 ∨ (17 * (u.den * halfStep s) : Int) ≤ 2 ^ 56 * |u.offset s| ∨
    (s, u.den) = exceptionalBoundary
  both : (17 * (2 ^ 25 * halfStep s) : Int) ≤ 2 ^ 56 * (|u.offset s| + |w.offset s|)

instance (s : Nat) (u w : Fraction) : Decidable (Decides s u w) :=
  decidable_of_iff (_ ∧ _ ∧ _ ∧ _ ∧ _)
    ⟨fun ⟨h₁, h₂, h₃, h₄, h₅⟩ => ⟨h₁, h₂, h₃, h₄, h₅⟩,
      fun ⟨h₁, h₂, h₃, h₄, h₅⟩ => ⟨h₁, h₂, h₃, h₄, h₅⟩⟩

/-- Two convergents decide at every scale. -/
theorem decides_decisive : ∀ s < 254, Decides s (decisive s).1 (decisive s).2 := by decide +kernel

/-- The next finer grid is clearly finer than the numbers of the scale. -/
theorem finer_gridExponent : ∀ s < 254,
    2 ^ 20 * (2 ^ 149 * 10 ^ (gridExponent s - 1).toNat) ≤
      (2 ^ 20 - 1) * (2 ^ s * 10 ^ (1 - gridExponent s).toNat) := by
  decide +kernel

theorem ten_zpow_le_of_lt_gridExponent {s : Nat} {p : Int} (hs : s < 254)
    (hp : p < gridExponent s) : (10 : ℚ) ^ p ≤ 2 ^ s / 2 ^ 149 * (1 - 1 / 2 ^ 20) := by
  have hgrid : (2 ^ 20 * (2 ^ 149 * 10 ^ (gridExponent s - 1).toNat) : ℚ) ≤
      (2 ^ 20 - 1) * (2 ^ s * 10 ^ (1 - gridExponent s).toNat) := by
    have := (Nat.cast_le (α := ℚ)).2 (finer_gridExponent s hs)
    rwa [Nat.cast_mul, Nat.cast_mul, Nat.cast_mul, Nat.cast_mul, Nat.cast_pow, Nat.cast_pow,
      Nat.cast_pow, Nat.cast_pow, Nat.cast_pow, Nat.cast_sub (by norm_num), Nat.cast_pow] at this
  have hsub : (1 - gridExponent s).toNat = (-(gridExponent s - 1)).toNat := by congr 1; omega
  have hpos : (0 : ℚ) < 10 ^ (1 - gridExponent s).toNat := by positivity
  calc (10 : ℚ) ^ p ≤ 10 ^ (gridExponent s - 1) :=
        zpow_le_zpow_right₀ (by norm_num) (by omega)
    _ = 10 ^ (gridExponent s - 1).toNat / 10 ^ (1 - gridExponent s).toNat := by
        rw [ten_zpow, hsub, cast_tenTo, cast_tenTo]
    _ ≤ 2 ^ s / 2 ^ 149 * (1 - 1 / 2 ^ 20) := by
        rw [div_le_iff₀ hpos]
        linarith

/-- A fraction of the ratio of half a step to its grid is off by a share of itself at least, or
not at all. -/
theorem eq_or_le_offset {s M : Nat} (hs : s < 254) (hM : 0 < M) (hM₂ : M < 2 ^ 25)
    (hne : (s, M) ≠ exceptionalBoundary) (D : Nat) :
    (M * halfStep s : Int) = D * gridStep s ∨
      17 * (M * halfStep s : Int) ≤ 2 ^ 56 * |(M * halfStep s - D * gridStep s : Int)| := by
  have hdecides := decides_decisive s hs
  generalize (decisive s).1 = u, (decisive s).2 = w at hdecides
  obtain ⟨hdet, hsides, hden, hfirst, hboth⟩ := hdecides
  simp only [Fraction.offset] at hsides hfirst hboth
  have hstep : (0 : Int) ≤ halfStep s := Int.natCast_nonneg _
  have hM' : (0 : Int) < M := by exact_mod_cast hM
  have hM₂' : (M : Int) < 2 ^ 25 := by exact_mod_cast hM₂
  have hmul := mul_or_le_of_convergents (D := D) hdet hsides (Int.natCast_nonneg _) hM'
    (hM₂'.trans_le (by exact_mod_cast hden))
  rcases hmul with ⟨a, hMa, hDa⟩ | hle
  · -- a multiple of the first convergent
    have ha : 0 < a := by
      by_contra hle
      nlinarith [Int.natCast_nonneg u.den]
    have hoffset : (M * halfStep s - D * gridStep s : Int) =
        a * (u.den * halfStep s - u.num * gridStep s) := by
      rw [hMa, hDa]; ring
    rcases hfirst with hzero | hfar | hexception
    · left
      rw [hzero, mul_zero] at hoffset
      exact sub_eq_zero.1 hoffset
    · right
      rw [hoffset, abs_mul, abs_of_pos ha, hMa]
      nlinarith
    · obtain ⟨rfl, hu⟩ := Prod.mk.inj hexception
      refine absurd ?_ hne
      rw [hu] at hMa
      have : a = 1 := by push_cast at hMa; omega
      rw [this, one_mul] at hMa
      exact congrArg (Prod.mk 42) (by exact_mod_cast hMa)
  · right
    have hscale : 17 * (M * halfStep s : Int) ≤ 17 * (2 ^ 25 * halfStep s) := by
      have := mul_le_mul_of_nonneg_right hM₂'.le hstep
      linarith
    have := mul_le_mul_of_nonneg_left hle (show (0 : Int) ≤ 2 ^ 56 by norm_num)
    exact hscale.trans (hboth.trans this)

/-- A decimal on a grid that is not clearly finer than the numbers of a scale is a boundary of that
scale, or keeps away from it. -/
theorem separated {s M D : Nat} {p : Int} (hs : s < 254) (hM : 0 < M) (hM₂ : M < 2 ^ 25)
    (hne : (s, M) ≠ exceptionalBoundary) (hp : gridExponent s ≤ p) :
    (D * 10 ^ p : ℚ) = M * (2 ^ s / 2 ^ 150) ∨
      17 / 2 ^ 56 * (M * (2 ^ s / 2 ^ 150)) ≤ |(D * 10 ^ p - M * (2 ^ s / 2 ^ 150) : ℚ)| := by
  -- in steps of the scale's own grid
  obtain ⟨n, hn⟩ := Int.eq_ofNat_of_zero_le (Int.sub_nonneg_of_le hp)
  have hgrid : (10 : ℚ) ^ p = 10 ^ n * 10 ^ gridExponent s := by
    rw [← zpow_natCast, ← zpow_add₀ (by norm_num)]
    congr 1
    omega
  have hdown : (0 : ℚ) < 10 ^ (-gridExponent s).toNat := by positivity
  have hscale : (0 : ℚ) < 2 ^ 150 * 10 ^ (-gridExponent s).toNat := by positivity
  have hboundary : (M * (2 ^ s / 2 ^ 150) : ℚ) =
      (M * halfStep s : Int) / (2 ^ 150 * 10 ^ (-gridExponent s).toNat) := by
    rw [halfStep]; push_cast; field_simp
  have hdecimal : (D * 10 ^ p : ℚ) =
      ((D * 10 ^ n : Nat) * gridStep s : Int) / (2 ^ 150 * 10 ^ (-gridExponent s).toNat) := by
    rw [hgrid, ten_zpow, cast_tenTo, cast_tenTo, gridStep]; push_cast; field_simp; norm_num
  rw [hboundary, hdecimal, ← sub_div, abs_div, abs_of_pos hscale, mul_div_assoc',
    div_left_inj' hscale.ne']
  refine (eq_or_le_offset hs hM hM₂ hne (D * 10 ^ n)).imp (fun h => ?_) fun h => ?_
  · exact_mod_cast h.symm
  · refine div_le_div_of_nonneg_right ?_ hscale.le
    have hcast := (Int.cast_le (R := ℚ)).2 h
    rw [abs_sub_comm, Int.cast_mul, Int.cast_mul (2 ^ 56), Int.cast_abs, Int.cast_sub] at hcast
    rw [div_mul_eq_mul_div, div_le_iff₀ (by norm_num), mul_comm |_|]
    exact_mod_cast hcast

end VirtualTouchpad
