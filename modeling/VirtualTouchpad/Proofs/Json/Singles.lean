/-
# Finite 32-bit numbers are read back

A finite 32-bit number is written with the fewest digits that round to it.
`roundsTo_shortest` says that the 64-bit float which is read for them rounds to
the number as well: the decimal keeps away from the boundaries of the number by
more than the reading is off, or lies on one and is read exactly.

Powers of two, whose range is lopsided, and the two neighbours of the one
exceptional boundary are evaluated.
-/
import VirtualTouchpad.Proofs.Json.Floats

namespace VirtualTouchpad

namespace Decimal

/-- The digits and the exponent that the text of a decimal is read with: a whole number without an
exponent has its zeros written out, and one behind the point. -/
def scanned (d : Decimal) : Nat × Int :=
  if (-6 ≤ d.leadingExponent ∧ d.leadingExponent ≤ 12) ∧ 0 ≤ d.exponent then
    (d.digits * 10 ^ (d.exponent.toNat + 1), -1)
  else (d.digits, d.exponent)

/-- Writing zeros out does not change what the decimal is worth. -/
theorem scanned_value (d : Decimal) : (d.scanned.1 * 10 ^ d.scanned.2 : ℚ) = d.value := by
  rw [scanned]
  split
  next h =>
    obtain ⟨k, hk⟩ := Int.eq_ofNat_of_zero_le h.2
    rw [value, hk, Int.toNat_natCast, zpow_natCast, pow_succ]
    push_cast
    rw [zpow_neg_one]
    field_simp
  next => rfl

theorem scanned_pos {d : Decimal} (h : 0 < d.digits) : 0 < d.scanned.1 := by
  rw [scanned]
  split
  · exact Nat.mul_pos h (Nat.pow_pos (by decide))
  · exact h

theorem scanned_lt {d : Decimal} (h : d.digits < 2 ^ 30) : d.scanned.1 < 2 ^ 53 := by
  rw [scanned]
  split
  next hshort =>
    obtain ⟨⟨-, hlead⟩, hexp⟩ := hshort
    have hdigits : d.digits < 10 ^ (Nat.toDigits 10 d.digits).length :=
      (Nat.length_toDigits_le_iff (by decide) Nat.length_toDigits_pos).1 (le_refl _)
    rw [leadingExponent] at hlead
    calc d.digits * 10 ^ (d.exponent.toNat + 1)
        < 10 ^ (Nat.toDigits 10 d.digits).length * 10 ^ (d.exponent.toNat + 1) :=
          Nat.mul_lt_mul_of_pos_right hdigits (Nat.pow_pos (by decide))
      _ = 10 ^ ((Nat.toDigits 10 d.digits).length + (d.exponent.toNat + 1)) := (Nat.pow_add ..).symm
      _ ≤ 10 ^ 14 := Nat.pow_le_pow_right (by decide) (by omega)
      _ < 2 ^ 53 := by decide
  next => exact h.trans (by decide)

theorem natAbs_scanned_le {d : Decimal} {n : Nat} (hn : 0 < n) (h : d.exponent.natAbs ≤ n) :
    d.scanned.2.natAbs ≤ n := by
  rw [scanned]
  split
  · exact hn
  · exact h

end Decimal

namespace Json

open Binary

variable {x : Single}

/-- Whether a 64-bit float rounds to the magnitude of a 32-bit one. -/
def RoundsTo (y : Double) (x : Single) : Prop :=
  y.IsFinite ∧ y.negative = false ∧
    x.roundingRange.has y.units (twoTo BinaryFormat.double.unitBits) = true

instance (y : Double) (x : Single) : Decidable (RoundsTo y x) :=
  inferInstanceAs (Decidable (_ ∧ _ ∧ _))

/-- The float that is read for a decimal. -/
def floatFor (d : Decimal) : Double := scaledOnce d.scanned.1 d.scanned.2

/-! ## Numbers between boundaries that are equally far -/

theorem startExponent_le (hx : x.IsFinite) : x.startExponent ≤ 39 := by
  have hlt : x.coefficient < 2 ^ 24 := x.coefficient_lt
  have hscale := scale_lt hx
  refine (Nat.length_toDigits_le_iff (by decide) (by decide)).2 ?_
  have hunit : BinaryFormat.single.unitBits = 149 := rfl
  rw [roundingRange_eq, hunit]
  have hden : 0 < 4 * 2 ^ 149 := by decide
  refine (Nat.div_lt_iff_lt_mul hden).2 ?_
  calc 4 * (x.coefficient * 2 ^ x.scale)
      ≤ 4 * (2 ^ 24 * 2 ^ 253) := Nat.mul_le_mul_left _ (Nat.mul_le_mul hlt.le
        (Nat.pow_le_pow_right (by decide) (by omega)))
    _ < 10 ^ 39 * (4 * 2 ^ 149) := by decide

theorem natAbs_exponent_le_of_isShortest {d : Decimal} (hx : x.IsFinite) (hd : x.IsShortest d) :
    d.exponent.natAbs ≤ 200 := by
  have hstart := startExponent_le hx
  have hlow := hd.le_exponent
  have hhigh := hd.exponent_le
  have hunit : BinaryFormat.single.unitBits = 149 := rfl
  rw [hunit] at hlow
  omega

/-- The shortest decimal of a number is read to within what two roundings lose. -/
theorem scaled_floatFor {d : Decimal} (hx : x.IsFinite) (hd : x.IsShortest d) :
    Scaled d.value d.scanned.2 (floatFor d) := by
  have hspec := scaledOnce_spec (Decimal.scanned_pos hd.digits_pos) (Decimal.scanned_lt hd.digits_lt)
    (Decimal.natAbs_scanned_le (by decide) (natAbs_exponent_le_of_isShortest hx hd))
  rwa [Decimal.scanned_value] at hspec

/-- A number is read back if what is near its shortest decimal lies in its range. -/
theorem roundsTo_of_holds {d : Decimal} (hx : x.IsFinite) (hd : x.IsShortest d)
    (h : x.roundingRange.Holds (floatFor d).value) : RoundsTo (floatFor d) x := by
  have hscaled := scaled_floatFor hx hd
  refine ⟨hscaled.isFinite, hscaled.negative_eq, ?_⟩
  rw [twoTo, Nat.pow_eq, RoundingRange.has_iff (Nat.two_pow_pos _), Nat.cast_pow]
  exact h

theorem roundsTo_of_isEven (hx : x.IsFinite) (hc : x.coefficient ≠ 0) (heven : x.IsEven)
    (hlow : (x.scale, 2 * x.coefficient - 1) ≠ exceptionalBoundary)
    (hhigh : (x.scale, 2 * x.coefficient + 1) ≠ exceptionalBoundary) :
    RoundsTo (floatFor (x.shortest .even)) x := by
  have hd := isShortest_shortest hc .even
  have hscaled := scaled_floatFor hx hd
  exact roundsTo_of_holds hx hd (holds_of_near hx hc heven hlow hhigh hd hscaled.near
    fun hsmall => hscaled.exact (Decimal.natAbs_scanned_le (by decide) hsmall))

/-! ## The other numbers -/

/-- A decimal with room for what two roundings lose, on either side of it. -/
def Clear (r : RoundingRange) (d : Decimal) : Prop :=
  let num := d.digits * tenTo d.exponent.toNat
  let den := tenTo (-d.exponent).toNat
  r.has (num * (2 ^ 100 - (2 ^ 48 + 1))) (den * 2 ^ 100) = true ∧
    r.has (num * (2 ^ 100 + (2 ^ 48 + 1))) (den * 2 ^ 100) = true

instance (r : RoundingRange) (d : Decimal) : Decidable (Clear r d) :=
  inferInstanceAs (Decidable (_ ∧ _))

theorem holds_of_clear {r : RoundingRange} {d : Decimal} {q : ℚ} (h : Clear r d)
    (hq : |q - d.value| ≤ d.value * slack) : r.Holds q := by
  have hden : 0 < tenTo (-d.exponent).toNat * 2 ^ 100 :=
    Nat.mul_pos (Nat.pow_pos (by decide)) (Nat.two_pow_pos _)
  have hvalue : d.value =
      (d.digits * tenTo d.exponent.toNat : Nat) / (tenTo (-d.exponent).toNat : Nat) := by
    rw [Decimal.value, ten_zpow, Nat.cast_mul, mul_div_assoc]
  have hless : (((2 ^ 100 - (2 ^ 48 + 1) : Nat) : ℚ) / (2 ^ 100 : Nat)) = 1 - slack := by
    norm_num [slack]
  have hmore : (((2 ^ 100 + (2 ^ 48 + 1) : Nat) : ℚ) / (2 ^ 100 : Nat)) = 1 + slack := by
    norm_num [slack]
  obtain ⟨hlow, hhigh⟩ := h
  rw [RoundingRange.has_iff hden, Nat.cast_mul, Nat.cast_mul _ (2 ^ 100), mul_div_mul_comm,
    ← hvalue] at hlow hhigh
  rw [hless] at hlow
  rw [hmore] at hhigh
  obtain ⟨hloss, hgain⟩ := abs_le.1 hq
  exact hlow.between hhigh (by linarith) (by linarith)

/-- The shortest decimals of powers of two have room on either side: on the coarsest grid that has a
point in the range. -/
theorem clear_power : ∀ e < 255, 2 ≤ e → ∃ k ∈ List.range 12,
    let x := ofMagnitude .single false (e * 2 ^ 23)
    let p := gridExponent (e - 1) - 2 + k
    p ≤ x.startExponent ∧ x.roundingRange.nearestOn .even (p + 1) = none ∧
      ∃ d ∈ x.roundingRange.nearestOn .even p, Clear x.roundingRange d := by
  decide +kernel

/-- The shortest decimals of the two numbers beside the exceptional boundary are read back. -/
theorem roundsTo_exception : ∀ c ∈ [11420669, 11420670],
    let x := ofMagnitude .single false (42 * 2 ^ 23 + c)
    RoundsTo (floatFor (x.shortest .even)) x := by
  decide +kernel

/-- The range and the shortest decimal do not depend on the sign. -/
theorem shortest_congr {y : Single} (h : x.magnitude = y.magnitude) :
    x.roundingRange = y.roundingRange ∧ x.shortest .even = y.shortest .even := by
  have hrange : x.roundingRange = y.roundingRange := by
    rw [roundingRange_eq, roundingRange_eq, reachDown, reachDown, coefficient_congr h,
      scale_congr h, exponentField_congr h, fractionField_congr h]
  refine ⟨hrange, ?_⟩
  rw [shortest, hrange, coefficient_congr h, shortest]

theorem RoundsTo.congr {y : Single} {z : Double} (h : x.magnitude = y.magnitude)
    (hx : RoundsTo z x) : RoundsTo z y := by
  rwa [RoundsTo, ← (shortest_congr h).1]

theorem roundsTo_shortest_of_ne_zero (hx : x.IsFinite) (hc : x.coefficient ≠ 0) :
    RoundsTo (floatFor (x.shortest .even)) x := by
  have hfraction : BinaryFormat.single.fractionBits = 23 := rfl
  have hself := magnitude_ofMagnitude false x.magnitude_lt
  obtain ⟨hrange, hshortest⟩ := shortest_congr hself
  by_cases heven : x.IsEven
  · by_cases hexception : (x.scale, 2 * x.coefficient - 1) = exceptionalBoundary ∨
        (x.scale, 2 * x.coefficient + 1) = exceptionalBoundary
    · have hparts : x.scale = 42 ∧ x.coefficient ∈ [11420669, 11420670] := by
        simp only [exceptionalBoundary, Prod.mk.injEq] at hexception
        simp only [List.mem_cons, List.not_mem_nil, or_false]
        omega
      have hm := x.magnitude_eq
      rw [hparts.1, hfraction] at hm
      have hrounds := roundsTo_exception x.coefficient hparts.2
      dsimp only at hrounds
      rw [← hm, hshortest] at hrounds
      exact hrounds.congr hself
    · obtain ⟨hlow, hhigh⟩ := not_or.1 hexception
      exact roundsTo_of_isEven hx hc heven hlow hhigh
  · -- a power of two
    obtain ⟨h0, hfield⟩ := not_not.1 heven
    have hm := x.magnitude_eq_fields
    rw [h0, hfraction, Nat.add_zero] at hm
    have hlt : x.exponentField < 255 := by
      have := magnitude_lt_of_isFinite hx
      have htop : BinaryFormat.single.infinityMagnitude = 255 * 2 ^ 23 := rfl
      omega
    obtain ⟨k, -, hp, hnone, d, hfound, hclear⟩ := clear_power x.exponentField hlt hfield
    rw [← hm] at hp hnone hfound hclear
    have hd := Binary.shortest_eq (coefficient_congr hself ▸ hc) hp hfound hnone
    rw [hshortest] at hd
    rw [hrange] at hclear
    have hisShortest := isShortest_shortest hc .even
    rw [hd] at hisShortest ⊢
    exact roundsTo_of_holds hx hisShortest
      (holds_of_clear hclear (scaled_floatFor hx hisShortest).near)

/-- What is read for zero is zero. -/
theorem floatFor_zero : (floatFor ⟨0, 0⟩).IsFinite ∧ (floatFor ⟨0, 0⟩).negative = false ∧
    (floatFor ⟨0, 0⟩).units = 0 := by
  decide +kernel

/-- The float that is read for the shortest decimal of a number rounds to the number. -/
theorem roundsTo_shortest (hx : x.IsFinite) : RoundsTo (floatFor (x.shortest .even)) x := by
  by_cases hc : x.coefficient = 0
  · have hshortest : x.shortest .even = ⟨0, 0⟩ := if_pos hc
    obtain ⟨hfinite, hsign, hunits⟩ := floatFor_zero
    rw [hshortest]
    refine ⟨hfinite, hsign, ?_⟩
    rw [hunits, roundingRange_eq, hc]
    simp [RoundingRange.has]
  · exact roundsTo_shortest_of_ne_zero hx hc

/-- A float that rounds to the magnitude of a number becomes the number, with its sign. -/
theorem convert_of_roundsTo {y : Double} (hx : x.IsFinite) (h : RoundsTo y x) :
    (if x.negative then y.neg else y).convert .single = x := by
  obtain ⟨hfinite, hsign, hhas⟩ := h
  have hratio := ofRatio_of_has hx (twoTo_pos _) hhas
  have hconvert : ∀ {z : Double}, z.IsFinite → z.negative = x.negative → z.units = y.units →
      z.convert .single = x := by
    intro z hz hzsign hzunits
    rw [convert, reading_of_isFinite hz, hzsign, hzunits]
    exact hratio
  cases hneg : x.negative with
  | false => exact hconvert hfinite (hsign.trans hneg.symm) rfl
  | true =>
    have hflipped : y.neg.negative = x.negative := by rw [negative_neg, hsign, hneg]; rfl
    exact hconvert ((isFinite_congr y.magnitude_neg).2 hfinite) hflipped
      (units_congr y.magnitude_neg)

/-- What the reader makes of the decimal. -/
theorem scaledFloat_shortest (hx : x.IsFinite) :
    scaledFloat (x.shortest .even).scanned.1 (x.shortest .even).scanned.2 =
      .ok (floatFor (x.shortest .even)) := by
  by_cases hc : x.coefficient = 0
  · have hshortest : x.shortest .even = ⟨0, 0⟩ := if_pos hc
    rw [hshortest]
    exact scaledFloat_eq (.inr (by decide)) (by decide) floatFor_zero.1
  · have hd := isShortest_shortest hc .even
    exact scaledFloat_eq (.inl (Decimal.scanned_pos hd.digits_pos).ne')
      (Decimal.natAbs_scanned_le (by decide) ((natAbs_exponent_le_of_isShortest hx hd).trans
        (by decide))) (roundsTo_shortest hx).1

end Json

end VirtualTouchpad
