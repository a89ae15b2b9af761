/-
# What rounding gives

A finite number is a coefficient at a scale, and its magnitude bits are the
coefficient plus a multiple of the scale.  From that:

* `ofRatio_of_has`: a quotient in the rounding range of a number rounds to it;
* `units_ofRatio`: what any quotient rounds to, in units, is the whole number
  nearest to it among those that the coefficient has room for.
-/
import Mathlib.Order.Basic
import Mathlib.Tactic.ByContra
import Mathlib.Tactic.Ring
import VirtualTouchpad.Numeric.Shortest

namespace VirtualTouchpad

/-! ## The nearest whole number -/

section RoundHalfEven

variable {n d r : Nat}

/-- The nearest whole number is at most half away. -/
theorem two_mul_roundHalfEven_le (n : Nat) (hd : 0 < d) :
    2 * (roundHalfEven n d * d) ≤ 2 * n + d := by
  have hdiv := Nat.div_add_mod n d
  have hmod := Nat.mod_lt n hd
  rw [Nat.mul_comm] at hdiv
  simp only [roundHalfEven]
  split
  next h => rw [Nat.add_mul, Nat.one_mul]; omega
  next h => omega

/-- The nearest whole number is at most half away. -/
theorem two_mul_le_roundHalfEven (n : Nat) (hd : 0 < d) :
    2 * n ≤ 2 * (roundHalfEven n d * d) + d := by
  have hdiv := Nat.div_add_mod n d
  have hmod := Nat.mod_lt n hd
  rw [Nat.mul_comm] at hdiv
  simp only [roundHalfEven]
  split
  next h => rw [Nat.add_mul, Nat.one_mul]; omega
  next h => omega

/-- A whole number that is nearer than half is the nearest, and so is an even one that is half
away. -/
theorem roundHalfEven_eq_of_near (hd : 0 < d) (hlow : 2 * (r * d) ≤ 2 * n + d)
    (hhigh : 2 * n ≤ 2 * (r * d) + d)
    (heven : r % 2 = 0 ∨ 2 * (r * d) < 2 * n + d ∧ 2 * n < 2 * (r * d) + d) :
    roundHalfEven n d = r := by
  have hdiv := Nat.div_add_mod n d
  have hmod := Nat.mod_lt n hd
  rw [Nat.mul_comm] at hdiv
  -- the whole part is `r`, or one less
  have hle : n / d ≤ r := by
    by_contra hlt
    have := Nat.mul_le_mul_right d (show r + 1 ≤ n / d by omega)
    rw [Nat.add_mul, Nat.one_mul] at this
    omega
  have hge : r ≤ n / d + 1 := by
    by_contra hlt
    have := Nat.mul_le_mul_right d (show n / d + 2 ≤ r by omega)
    rw [Nat.add_mul] at this
    omega
  simp only [roundHalfEven]
  rcases Nat.lt_or_ge (n / d) r with hlt | hge'
  · obtain rfl : r = n / d + 1 := by omega
    rw [Nat.add_mul, Nat.one_mul] at hlow hhigh heven
    rw [if_pos (by omega)]
  · obtain rfl : r = n / d := by omega
    rw [if_neg (by omega)]

theorem roundHalfEven_lt_of_lt_mul {k : Nat} (hd : 0 < d) (h : n < d * k) :
    roundHalfEven n d ≤ k := by
  by_contra hlt
  have hr := two_mul_roundHalfEven_le n hd
  have := Nat.mul_le_mul_right d (show k + 1 ≤ roundHalfEven n d by omega)
  rw [Nat.add_mul, Nat.one_mul, Nat.mul_comm k] at this
  omega

theorem le_roundHalfEven_of_mul_le {k : Nat} (hd : 0 < d) (h : d * k ≤ n) :
    k ≤ roundHalfEven n d := by
  by_contra hlt
  have hr := two_mul_le_roundHalfEven n hd
  have := Nat.mul_le_mul_right d (show roundHalfEven n d + 1 ≤ k by omega)
  rw [Nat.add_mul, Nat.one_mul, Nat.mul_comm k] at this
  omega

end RoundHalfEven

namespace Binary

variable {f : BinaryFormat}

/-! ## Sign and magnitude -/

theorem two_pow_width (f : BinaryFormat) : 2 ^ f.width = 2 * 2 ^ f.magnitudeBits := by
  simp only [BinaryFormat.width, Nat.pow_succ, Nat.mul_comm]

theorem magnitude_lt (x : Binary f) : x.magnitude < 2 ^ f.magnitudeBits :=
  Nat.mod_lt _ (Nat.two_pow_pos _)

theorem toNat_bits_ofMagnitude (negative : Bool) {m : Nat} (h : m < 2 ^ f.magnitudeBits) :
    (ofMagnitude f negative m).bits.toNat =
      (if negative then 2 ^ f.magnitudeBits else 0) + m := by
  simp only [ofMagnitude, BitVec.toNat_ofNat, two_pow_width, Nat.pow_eq]
  exact Nat.mod_eq_of_lt (by split <;> omega)

@[simp] theorem magnitude_ofMagnitude (negative : Bool) {m : Nat}
    (h : m < 2 ^ f.magnitudeBits) : (ofMagnitude f negative m).magnitude = m := by
  rw [magnitude, toNat_bits_ofMagnitude negative h]
  cases negative <;> simp [Nat.mod_eq_of_lt h]

@[simp] theorem negative_ofMagnitude (negative : Bool) {m : Nat}
    (h : m < 2 ^ f.magnitudeBits) : (ofMagnitude f negative m).negative = negative := by
  rw [Binary.negative, toNat_bits_ofMagnitude negative h]
  cases negative <;> simp [h]

/-- A number is its sign and its magnitude. -/
theorem ofMagnitude_self (x : Binary f) : ofMagnitude f x.negative x.magnitude = x := by
  obtain ⟨bits⟩ := x
  have hlt : bits.toNat < 2 * 2 ^ f.magnitudeBits := by
    have := bits.isLt
    rwa [two_pow_width] at this
  have hm : (⟨bits⟩ : Binary f).magnitude < 2 ^ f.magnitudeBits := magnitude_lt _
  refine congrArg Binary.mk (BitVec.eq_of_toNat_eq ?_)
  refine (toNat_bits_ofMagnitude _ hm).trans ?_
  rcases Nat.lt_or_ge bits.toNat (2 ^ f.magnitudeBits) with h | h
  · have hsign : (⟨bits⟩ : Binary f).negative = false := by simpa [Binary.negative] using h
    have hmagnitude : (⟨bits⟩ : Binary f).magnitude = bits.toNat := Nat.mod_eq_of_lt h
    rw [hsign, hmagnitude]
    exact Nat.zero_add _
  · have hsign : (⟨bits⟩ : Binary f).negative = true := by simpa [Binary.negative] using h
    have hmagnitude : (⟨bits⟩ : Binary f).magnitude = bits.toNat - 2 ^ f.magnitudeBits :=
      (Nat.mod_eq_sub_mod h).trans (Nat.mod_eq_of_lt (by omega))
    rw [hsign, hmagnitude]
    exact Nat.add_sub_cancel' h

/-! ## Coefficient and scale -/

theorem twoTo_pos (n : Nat) : 0 < twoTo n := Nat.two_pow_pos n

/-- Neither an infinity nor a NaN. -/
def IsFinite (x : Binary f) : Prop := x.exponentField ≠ f.topField

instance (x : Binary f) : Decidable x.IsFinite := inferInstanceAs (Decidable (_ ≠ _))

/-- The count of units of a finite number. -/
def units (x : Binary f) : Nat := x.coefficient * 2 ^ x.scale

theorem reading_of_isFinite {x : Binary f} (h : x.IsFinite) :
    x.reading = .finite x.negative x.units := by
  rw [reading, if_neg h]; rfl

theorem fractionField_lt (x : Binary f) : x.fractionField < 2 ^ f.fractionBits :=
  Nat.mod_lt _ (Nat.two_pow_pos _)

theorem magnitude_eq_fields (x : Binary f) :
    x.magnitude = x.exponentField * 2 ^ f.fractionBits + x.fractionField := by
  have := Nat.div_add_mod x.magnitude (2 ^ f.fractionBits)
  rw [Nat.mul_comm] at this
  exact this.symm

/-- The magnitude bits are the coefficient and the scale. -/
theorem magnitude_eq (x : Binary f) :
    x.magnitude = x.scale * 2 ^ f.fractionBits + x.coefficient := by
  rw [magnitude_eq_fields, scale, coefficient]
  split
  next h => simp [h]
  next h =>
    obtain ⟨e, he⟩ := Nat.exists_eq_succ_of_ne_zero h
    simp only [he, Nat.succ_eq_add_one, Nat.add_sub_cancel, Nat.pow_eq]
    rw [Nat.add_mul, Nat.one_mul, Nat.add_assoc]

theorem coefficient_lt (x : Binary f) : x.coefficient < 2 ^ (f.fractionBits + 1) := by
  have := x.fractionField_lt
  rw [Nat.pow_succ, coefficient]
  simp only [Nat.pow_eq]
  split <;> omega

theorem le_coefficient {x : Binary f} (h : 0 < x.scale) : 2 ^ f.fractionBits ≤ x.coefficient := by
  have hfield : x.exponentField ≠ 0 := by intro h0; simp [scale, h0] at h
  simp [coefficient, hfield]

theorem magnitude_lt_of_isFinite {x : Binary f} (h : x.IsFinite) :
    x.magnitude < f.infinityMagnitude := by
  have hle : x.exponentField ≤ f.topField := by
    have hlt : x.magnitude < 2 ^ f.exponentBits * 2 ^ f.fractionBits := by
      rw [← Nat.pow_add]; exact x.magnitude_lt
    have : x.exponentField < 2 ^ f.exponentBits := Nat.div_lt_of_lt_mul (by
      rw [Nat.mul_comm]; exact hlt)
    simp only [BinaryFormat.topField, Nat.pow_eq]
    omega
  have hlt : x.exponentField + 1 ≤ f.topField := by
    have : x.exponentField ≠ f.topField := h
    omega
  have := Nat.mul_le_mul_right (2 ^ f.fractionBits) hlt
  have hfraction := x.fractionField_lt
  rw [Nat.add_mul, Nat.one_mul] at this
  rw [magnitude_eq_fields, BinaryFormat.infinityMagnitude]
  simp only [Nat.pow_eq]
  omega

theorem infinityMagnitude_lt (f : BinaryFormat) :
    f.infinityMagnitude < 2 ^ f.magnitudeBits := by
  have hpos : 0 < 2 ^ f.exponentBits := Nat.two_pow_pos _
  have hlt : f.topField < 2 ^ f.exponentBits := by
    simp only [BinaryFormat.topField, Nat.pow_eq]; omega
  rw [BinaryFormat.infinityMagnitude, BinaryFormat.magnitudeBits, Nat.pow_add]
  exact Nat.mul_lt_mul_of_pos_right hlt (Nat.two_pow_pos _)

/-- A number is finite if its magnitude is below that of infinity. -/
theorem isFinite_of_magnitude_lt {x : Binary f} (h : x.magnitude < f.infinityMagnitude) :
    x.IsFinite := by
  intro htop
  rw [magnitude_eq_fields, htop, BinaryFormat.infinityMagnitude] at h
  simp only [Nat.pow_eq] at h
  omega

/-- Coefficient and scale can be read off the magnitude bits. -/
theorem scale_and_coefficient {x : Binary f} {s c : Nat}
    (hm : x.magnitude = s * 2 ^ f.fractionBits + c) (hs : s = 0 ∨ 2 ^ f.fractionBits ≤ c)
    (hc : c < 2 ^ (f.fractionBits + 1)) : x.scale = s ∧ x.coefficient = c := by
  have hpos : 0 < 2 ^ f.fractionBits := Nat.two_pow_pos _
  rw [Nat.pow_succ] at hc
  rcases Nat.lt_or_ge c (2 ^ f.fractionBits) with hlt | hge
  · obtain rfl : s = 0 := by omega
    have hfield : x.exponentField = 0 := by
      rw [exponentField, hm, Nat.zero_mul, Nat.zero_add]; exact Nat.div_eq_of_lt hlt
    have hfraction : x.fractionField = c := by
      rw [fractionField, hm, Nat.zero_mul, Nat.zero_add]; exact Nat.mod_eq_of_lt hlt
    simp [scale, coefficient, hfield, hfraction]
  · have hsplit : x.magnitude = c - 2 ^ f.fractionBits + 2 ^ f.fractionBits * (s + 1) := by
      rw [hm, Nat.mul_comm s, Nat.mul_add]; omega
    have hfield : x.exponentField = s + 1 := by
      rw [exponentField, hsplit]
      simp only [Nat.pow_eq]
      rw [Nat.add_mul_div_left _ _ hpos, Nat.div_eq_of_lt (by omega), Nat.zero_add]
    have hfraction : x.fractionField = c - 2 ^ f.fractionBits := by
      rw [fractionField, hsplit]
      simp only [Nat.pow_eq]
      rw [Nat.add_mul_mod_self_left, Nat.mod_eq_of_lt (by omega)]
    simp [scale, coefficient, hfield, hfraction]
    omega

/-- The units of magnitude bits, also where the coefficient is one too great for its scale. -/
theorem units_of_magnitude {x : Binary f} {s c : Nat}
    (hm : x.magnitude = s * 2 ^ f.fractionBits + c) (hs : s = 0 ∨ 2 ^ f.fractionBits ≤ c)
    (hc : c ≤ 2 ^ (f.fractionBits + 1)) : x.units = c * 2 ^ s := by
  rcases Nat.lt_or_ge c (2 ^ (f.fractionBits + 1)) with hlt | hge
  · obtain ⟨hscale, hcoefficient⟩ := scale_and_coefficient hm hs hlt
    rw [units, hscale, hcoefficient]
  · obtain rfl : c = 2 ^ (f.fractionBits + 1) := by omega
    have hm' : x.magnitude = (s + 1) * 2 ^ f.fractionBits + 2 ^ f.fractionBits := by
      rw [hm, Nat.pow_succ, Nat.add_mul]; omega
    obtain ⟨hscale, hcoefficient⟩ :=
      scale_and_coefficient hm' (.inr (Nat.le_refl _)) (Nat.pow_lt_pow_succ (by omega))
    rw [units, hscale, hcoefficient, Nat.pow_succ, Nat.pow_succ, Nat.mul_assoc,
      Nat.mul_comm (2 ^ s)]

/-! ## Numbers of one magnitude -/

section SameMagnitude

variable {x y : Binary f} (h : x.magnitude = y.magnitude)

include h

theorem exponentField_congr : x.exponentField = y.exponentField := by
  rw [exponentField, h, exponentField]

theorem fractionField_congr : x.fractionField = y.fractionField := by
  rw [fractionField, h, fractionField]

theorem coefficient_congr : x.coefficient = y.coefficient := by
  rw [coefficient, exponentField_congr h, fractionField_congr h, coefficient]

theorem scale_congr : x.scale = y.scale := by
  rw [scale, exponentField_congr h, scale]

theorem units_congr : x.units = y.units := by
  rw [units, coefficient_congr h, scale_congr h, units]

theorem isFinite_congr : x.IsFinite ↔ y.IsFinite := by
  rw [IsFinite, exponentField_congr h, IsFinite]

end SameMagnitude

theorem magnitude_neg (x : Binary f) : x.neg.magnitude = x.magnitude :=
  magnitude_ofMagnitude _ x.magnitude_lt

theorem negative_neg (x : Binary f) : x.neg.negative = !x.negative :=
  negative_ofMagnitude _ x.magnitude_lt

/-! ## Rounding a quotient -/

section OfRatio

variable {num den : Nat}

/-- The scale that a quotient is rounded at. -/
def ratioScale (f : BinaryFormat) (num den : Nat) : Nat :=
  (num * 2 ^ f.unitBits / den).log2 - f.fractionBits

/-- The coefficient that a quotient is rounded to. -/
def ratioCoefficient (f : BinaryFormat) (num den : Nat) : Nat :=
  roundHalfEven (num * 2 ^ f.unitBits) (den * 2 ^ ratioScale f num den)

theorem ofRatio_eq (negative : Bool) (num den : Nat) :
    ofRatio f negative num den = ofMagnitude f negative
      (min (ratioScale f num den * 2 ^ f.fractionBits + ratioCoefficient f num den)
        f.infinityMagnitude) := rfl

/-- In units, a quotient has no more binary digits than its scale and the coefficient have room
for. -/
theorem lt_of_ratioScale (hden : 0 < den) :
    num * 2 ^ f.unitBits < den * 2 ^ ratioScale f num den * 2 ^ (f.fractionBits + 1) := by
  have hlog := Nat.lt_log2_self (n := num * 2 ^ f.unitBits / den)
  have hle : 2 ^ ((num * 2 ^ f.unitBits / den).log2 + 1) ≤
      2 ^ (ratioScale f num den + (f.fractionBits + 1)) :=
    Nat.pow_le_pow_right (by omega) (by rw [ratioScale]; omega)
  rw [Nat.mul_assoc, ← Nat.pow_add, Nat.mul_comm den]
  exact (Nat.div_lt_iff_lt_mul hden).1 (Nat.lt_of_lt_of_le hlog hle)

/-- A quotient that is rounded at a scale above zero fills the coefficient. -/
theorem le_of_ratioScale (hscale : 0 < ratioScale f num den) :
    den * 2 ^ ratioScale f num den * 2 ^ f.fractionBits ≤ num * 2 ^ f.unitBits := by
  have hlog : (num * 2 ^ f.unitBits / den).log2 = ratioScale f num den + f.fractionBits := by
    rw [ratioScale] at hscale ⊢; omega
  have hne : num * 2 ^ f.unitBits / den ≠ 0 := by
    intro h0; rw [ratioScale, h0] at hscale; simp at hscale
  have hle := Nat.log2_self_le hne
  rw [hlog] at hle
  calc den * 2 ^ ratioScale f num den * 2 ^ f.fractionBits
      = 2 ^ (ratioScale f num den + f.fractionBits) * den := by
        rw [Nat.pow_add, Nat.mul_assoc, Nat.mul_comm den]
    _ ≤ num * 2 ^ f.unitBits / den * den := Nat.mul_le_mul_right den hle
    _ ≤ num * 2 ^ f.unitBits := Nat.div_mul_le_self _ _

/-- These two bounds determine the scale. -/
theorem ratioScale_eq {s : Nat} (hden : 0 < den)
    (hlow : s = 0 ∨ den * 2 ^ s * 2 ^ f.fractionBits ≤ num * 2 ^ f.unitBits)
    (hhigh : num * 2 ^ f.unitBits < den * 2 ^ s * 2 ^ (f.fractionBits + 1)) :
    ratioScale f num den = s := by
  have hlt : num * 2 ^ f.unitBits / den < 2 ^ (s + f.fractionBits + 1) := by
    rw [Nat.div_lt_iff_lt_mul hden, Nat.add_assoc, Nat.pow_add, Nat.mul_comm _ den]
    simpa only [Nat.mul_assoc] using hhigh
  have hle : ratioScale f num den ≤ s := by
    rcases Nat.eq_zero_or_pos (num * 2 ^ f.unitBits / den) with h0 | hpos
    · simp [ratioScale, h0]
    · have := (Nat.log2_lt hpos.ne').2 hlt
      rw [ratioScale]; omega
  rcases hlow with rfl | hlow
  · omega
  · have hge : 2 ^ (s + f.fractionBits) ≤ num * 2 ^ f.unitBits / den := by
      rw [Nat.le_div_iff_mul_le hden, Nat.pow_add, Nat.mul_comm _ den]
      simpa only [Nat.mul_assoc] using hlow
    have hne : num * 2 ^ f.unitBits / den ≠ 0 :=
      (Nat.lt_of_lt_of_le (Nat.two_pow_pos _) hge).ne'
    have := (Nat.le_log2 hne).2 hge
    rw [ratioScale] at hle ⊢; omega

/-- The scale is below the number of binary digits of the quotient in units. -/
theorem ratioScale_lt {b : Nat} (hden : 0 < den) (hb : f.fractionBits < b)
    (h : num * 2 ^ f.unitBits < den * 2 ^ b) : ratioScale f num den + f.fractionBits < b := by
  have hlt : num * 2 ^ f.unitBits / den < 2 ^ b := by
    rwa [Nat.div_lt_iff_lt_mul hden, Nat.mul_comm _ den]
  rcases Nat.eq_zero_or_pos (num * 2 ^ f.unitBits / den) with h0 | hpos
  · simpa [ratioScale, h0] using hb
  · have hlog := (Nat.log2_lt hpos.ne').2 hlt
    rw [ratioScale]; omega

theorem ratioCoefficient_le (hden : 0 < den) :
    ratioCoefficient f num den ≤ 2 ^ (f.fractionBits + 1) :=
  roundHalfEven_lt_of_lt_mul (Nat.mul_pos hden (Nat.two_pow_pos _)) (lt_of_ratioScale hden)

theorem le_ratioCoefficient (hden : 0 < den) :
    ratioScale f num den = 0 ∨ 2 ^ f.fractionBits ≤ ratioCoefficient f num den := by
  refine (Nat.eq_zero_or_pos _).imp_right fun hscale => ?_
  exact le_roundHalfEven_of_mul_le (Nat.mul_pos hden (Nat.two_pow_pos _))
    (le_of_ratioScale hscale)

/-- A quotient that stays below infinity is rounded to a finite number, of the given units. -/
theorem ofRatio_finite (negative : Bool) (hden : 0 < den)
    (hlt : ratioScale f num den * 2 ^ f.fractionBits + ratioCoefficient f num den <
      f.infinityMagnitude) :
    (ofRatio f negative num den).IsFinite ∧
      (ofRatio f negative num den).negative = negative ∧
      (ofRatio f negative num den).units =
        ratioCoefficient f num den * 2 ^ ratioScale f num den := by
  have hm := Nat.lt_trans hlt (infinityMagnitude_lt f)
  rw [ofRatio_eq, Nat.min_eq_left (Nat.le_of_lt hlt)]
  have hmagnitude := magnitude_ofMagnitude negative hm
  refine ⟨isFinite_of_magnitude_lt (by rwa [hmagnitude]), negative_ofMagnitude negative hm, ?_⟩
  exact units_of_magnitude hmagnitude (le_ratioCoefficient hden) (ratioCoefficient_le hden)

/-- The bounds of a rounding range: half a step to each side, and a quarter below the least number
of its scale but the first. -/
theorem bounds_of_has {x : Binary f} (h : x.roundingRange.has num den = true) :
    2 * (x.coefficient * (den * 2 ^ x.scale)) ≤ 2 * (num * 2 ^ f.unitBits) + den * 2 ^ x.scale ∧
    2 * (num * 2 ^ f.unitBits) ≤ 2 * (x.coefficient * (den * 2 ^ x.scale)) + den * 2 ^ x.scale ∧
    (x.coefficient % 2 = 0 ∨
      2 * (x.coefficient * (den * 2 ^ x.scale)) < 2 * (num * 2 ^ f.unitBits) + den * 2 ^ x.scale ∧
      2 * (num * 2 ^ f.unitBits) < 2 * (x.coefficient * (den * 2 ^ x.scale)) + den * 2 ^ x.scale) ∧
    (x.fractionField = 0 → 1 < x.exponentField →
      4 * (x.coefficient * (den * 2 ^ x.scale)) ≤
        4 * (num * 2 ^ f.unitBits) + den * 2 ^ x.scale) := by
  have hvalue : 4 * (x.coefficient * 2 ^ x.scale) * den =
      4 * (x.coefficient * (den * 2 ^ x.scale)) := by ring
  have hstep : 2 ^ x.scale * den = den * 2 ^ x.scale := Nat.mul_comm _ _
  have hnum : num * (4 * 2 ^ f.unitBits) = 4 * (num * 2 ^ f.unitBits) := by ring
  simp only [RoundingRange.has, roundingRange, Nat.pow_eq, decide_eq_true_eq, hnum] at h
  by_cases hbelow : x.fractionField = 0 ∧ 1 < x.exponentField
  · simp only [if_pos hbelow, Nat.sub_mul, Nat.add_mul, hvalue, Nat.mul_assoc 2, hstep] at h
    split at h <;> simp at h <;> omega
  · simp only [if_neg hbelow, Nat.sub_mul, Nat.add_mul, hvalue, Nat.mul_assoc 2, hstep] at h
    split at h <;> simp at h <;> omega

section Has

variable {x : Binary f}

/-- A quotient in the rounding range that fills the number's scale has its scale and coefficient. -/
theorem parts_of_full (hden : 0 < den) (h : x.roundingRange.has num den = true)
    (hfull : x.scale = 0 ∨ den * 2 ^ x.scale * 2 ^ f.fractionBits ≤ num * 2 ^ f.unitBits) :
    ratioScale f num den = x.scale ∧ ratioCoefficient f num den = x.coefficient := by
  obtain ⟨hlow, hhigh, heven, -⟩ := bounds_of_has h
  have hwidth : 0 < den * 2 ^ x.scale := Nat.mul_pos hden (Nat.two_pow_pos _)
  have hroom : x.coefficient * (den * 2 ^ x.scale) + den * 2 ^ x.scale ≤
      den * 2 ^ x.scale * 2 ^ (f.fractionBits + 1) := by
    have := Nat.mul_le_mul_right (den * 2 ^ x.scale) (Nat.succ_le_of_lt x.coefficient_lt)
    rwa [Nat.succ_mul, Nat.mul_comm (2 ^ _)] at this
  have hscale := ratioScale_eq hden hfull (by omega)
  refine ⟨hscale, ?_⟩
  rw [ratioCoefficient, hscale]
  exact roundHalfEven_eq_of_near hwidth hlow hhigh heven

/-- A quotient in the rounding range that does not fill the number's scale shows that the number
is the least of its scale. -/
theorem least_of_not_full (h : x.roundingRange.has num den = true) (hpos : x.scale ≠ 0)
    (hless : num * 2 ^ f.unitBits < den * 2 ^ x.scale * 2 ^ f.fractionBits) :
    x.coefficient = 2 ^ f.fractionBits ∧ x.fractionField = 0 ∧ 1 < x.exponentField := by
  obtain ⟨hlow, -⟩ := bounds_of_has h
  have hleast : x.coefficient = 2 ^ f.fractionBits := by
    refine Nat.le_antisymm ?_ (le_coefficient (Nat.pos_of_ne_zero hpos))
    by_contra hmore
    have := Nat.mul_le_mul_right (den * 2 ^ x.scale) (Nat.succ_le_of_lt (Nat.lt_of_not_le hmore))
    rw [Nat.succ_mul, Nat.mul_comm (2 ^ _)] at this
    omega
  have hfield : 1 < x.exponentField := by
    have hscale : x.exponentField - 1 ≠ 0 := hpos
    omega
  have hfraction : x.fractionField = 0 := by
    rw [coefficient, if_neg (by omega), twoTo, Nat.pow_eq] at hleast
    omega
  exact ⟨hleast, hfraction, hfield⟩

/-- Such a quotient is rounded one scale further down, and the rounding carries it up. -/
theorem parts_of_not_full (hden : 0 < den) (h : x.roundingRange.has num den = true) {s : Nat}
    (hs : x.scale = s + 1)
    (hless : num * 2 ^ f.unitBits < den * 2 ^ x.scale * 2 ^ f.fractionBits) :
    ratioScale f num den = s ∧ ratioCoefficient f num den = 2 ^ (f.fractionBits + 1) := by
  obtain ⟨hleast, hfraction, hfield⟩ := least_of_not_full h (by omega) hless
  obtain ⟨hlow, hhigh, -, hquarter⟩ := bounds_of_has h
  have hquarter := hquarter hfraction hfield
  have hwide : den * 2 ^ x.scale = 2 * (den * 2 ^ s) := by rw [hs, Nat.pow_succ]; ring
  rw [hwide, hleast, Nat.mul_comm (2 ^ _)] at hquarter hlow hhigh
  rw [hwide] at hless
  rw [Nat.mul_assoc 2] at hless hquarter hlow hhigh
  have hwidth : 0 < den * 2 ^ s := Nat.mul_pos hden (Nat.two_pow_pos _)
  have hroom : den * 2 ^ s ≤ den * 2 ^ s * 2 ^ f.fractionBits :=
    Nat.le_mul_of_pos_right _ (Nat.two_pow_pos _)
  have hdouble : den * 2 ^ s * 2 ^ (f.fractionBits + 1) =
      2 * (den * 2 ^ s * 2 ^ f.fractionBits) := by rw [Nat.pow_succ]; ring
  have hscale : ratioScale f num den = s := ratioScale_eq hden (.inr (by omega)) (by omega)
  refine ⟨hscale, ?_⟩
  rw [ratioCoefficient, hscale]
  refine roundHalfEven_eq_of_near hwidth ?_ ?_ (.inl ?_)
  · rw [Nat.mul_comm (2 ^ _)]; omega
  · rw [Nat.mul_comm (2 ^ _)]; omega
  · rw [Nat.pow_succ]; omega

/-- A quotient in the rounding range of a finite number rounds to it. -/
theorem ofRatio_of_has (hx : x.IsFinite) (hden : 0 < den)
    (h : x.roundingRange.has num den = true) : ofRatio f x.negative num den = x := by
  suffices hparts : ratioScale f num den * 2 ^ f.fractionBits + ratioCoefficient f num den =
      x.magnitude by
    rw [ofRatio_eq, hparts, Nat.min_eq_left (magnitude_lt_of_isFinite hx).le, ofMagnitude_self]
  by_cases hfull : x.scale = 0 ∨
      den * 2 ^ x.scale * 2 ^ f.fractionBits ≤ num * 2 ^ f.unitBits
  · obtain ⟨hscale, hcoefficient⟩ := parts_of_full hden h hfull
    rw [hscale, hcoefficient, magnitude_eq]
  · obtain ⟨hpos, hless⟩ := not_or.1 hfull
    obtain ⟨s, hs⟩ := Nat.exists_eq_succ_of_ne_zero hpos
    have hleast := (least_of_not_full h hpos (Nat.lt_of_not_le hless)).1
    obtain ⟨hscale, hcoefficient⟩ := parts_of_not_full hden h hs (Nat.lt_of_not_le hless)
    rw [hscale, hcoefficient, magnitude_eq, hleast, hs, Nat.succ_mul, Nat.pow_succ]
    omega

end Has

end OfRatio

end Binary

end VirtualTouchpad
