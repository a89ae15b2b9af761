/-
# Floats in ranges

A finite float is a rational number, `Binary.number?`.  Samples are compared with the ends
of their ranges by `Binary.rank`, so that infinities have a place in the order too; this
module says what the comparisons mean for the number.

* `Single.isPosition_iff`: the numbers from zero up to one, without one;
* `Single.isScrollAmount_iff`: the numbers from minus one to one.

An infinity or a NaN is in neither range, and the zero with a minus sign is the number zero.
-/
import VirtualTouchpad.Proofs.Numeric.Error
import VirtualTouchpad.Touchpad.Scaling

namespace VirtualTouchpad

namespace Binary

variable {f : BinaryFormat}

/-- The number that a finite float is. -/
def number? (x : Binary f) : Option ℚ :=
  match x.reading with
  | .finite negative units => some (signed negative units / 2 ^ f.unitBits)
  | .infinite _ | .nan => none

/-- The place of a finite float in the order is its number, in units of the format. -/
theorem rank_of_number? {x : Binary f} {q : ℚ} (h : x.number? = some q) :
    ∃ n : Int, x.rank = some n ∧ q = n / 2 ^ f.unitBits := by
  rw [number?] at h
  rw [rank]
  cases hreading : x.reading with
  | finite negative units =>
    rw [hreading] at h
    exact ⟨signed negative units, rfl, (Option.some.inj h).symm⟩
  | infinite | nan =>
    rw [hreading] at h
    cases h

end Binary

namespace Single

/-- A float that is no number has no place in the order, or one beyond the ranges of samples. -/
theorem rank_of_not_isFinite {x : Single} (h : ¬ x.IsFinite) {n : Int} (hn : x.rank = some n) :
    n < -2 ^ 149 ∨ 2 ^ 149 < n := by
  have hbeyond : (2 ^ 149 : Int) < (twoTo (BinaryFormat.single.topField - 1 +
      BinaryFormat.single.fractionBits) : Nat) := by decide +kernel
  have htop : x.exponentField = BinaryFormat.single.topField := not_not.1 h
  rw [Binary.rank, Binary.reading, if_pos htop] at hn
  by_cases hinfinite : x.fractionField = 0
  · rw [if_pos hinfinite] at hn
    have hvalue := Option.some.inj hn
    split at hvalue <;> omega
  · rw [if_neg hinfinite] at hn
    cases hn

/-- A float whose place in the order is not beyond the ranges of samples is the number that its
place says. -/
theorem number?_of_rank {x : Single} {n : Int} (hn : x.rank = some n) (hlow : -2 ^ 149 ≤ n)
    (hhigh : n ≤ 2 ^ 149) : x.IsFinite ∧ x.number? = some ((n : ℚ) / 2 ^ 149) := by
  have hfinite : x.IsFinite := by
    by_contra h
    have hfar := rank_of_not_isFinite h hn
    omega
  have hreading := Binary.reading_of_isFinite hfinite
  rw [Binary.rank, hreading] at hn
  obtain rfl : signed x.negative x.units = n := Option.some.inj hn
  refine ⟨hfinite, ?_⟩
  rw [Binary.number?, hreading]
  rfl

/-- The ends of the ranges in the order: minus one, zero and one. -/
theorem rank_ends : (Binary.neg one).rank = some (-2 ^ 149) ∧ zero.rank = some 0
    ∧ one.rank = some (2 ^ 149) := by
  decide +kernel

/-! ## Positions -/

/-- Whether a float is a number from zero up to one, but not one. -/
def InUnit (x : Single) : Prop := ∃ q, x.number? = some q ∧ 0 ≤ q ∧ q < 1

theorem isPosition_eq_true_iff {x : Single} :
    x.isPosition = true ↔ ∃ n : Int, x.rank = some n ∧ 0 ≤ n ∧ n < 2 ^ 149 := by
  obtain ⟨-, hzero, hone⟩ := rank_ends
  rw [isPosition, Binary.le, Binary.lt, hzero, hone]
  cases x.rank <;> simp

/-- **Positions** are the numbers from zero up to one. -/
theorem isPosition_iff {x : Single} : x.isPosition = true ↔ x.InUnit := by
  have hunits : (0 : ℚ) < 2 ^ 149 := by positivity
  rw [isPosition_eq_true_iff]
  constructor
  · rintro ⟨n, hn, hlow, hhigh⟩
    have hnumber := (number?_of_rank hn (by omega) (by omega)).2
    refine ⟨(n : ℚ) / 2 ^ 149, hnumber, ?_, ?_⟩
    · exact div_nonneg (by exact_mod_cast hlow) hunits.le
    · rw [div_lt_one hunits]
      exact_mod_cast hhigh
  · rintro ⟨q, hq, hlow, hhigh⟩
    obtain ⟨n, hn, rfl⟩ := Binary.rank_of_number? hq
    have hlow : 0 ≤ (n : ℚ) / 2 ^ 149 := hlow
    have hhigh : (n : ℚ) / 2 ^ 149 < 1 := hhigh
    rw [le_div_iff₀ hunits, zero_mul] at hlow
    rw [div_lt_one hunits] at hhigh
    exact ⟨n, hn, by exact_mod_cast hlow, by exact_mod_cast hhigh⟩

instance (x : Single) : Decidable x.InUnit := decidable_of_iff _ isPosition_iff

example : InUnit (Binary.neg zero) ∧ ¬ InUnit one ∧ ¬ InUnit (Binary.nan .single) := by
  decide +kernel

theorem isFinite_of_isPosition {x : Single} (h : x.isPosition = true) : x.IsFinite := by
  obtain ⟨n, hn, hlow, hhigh⟩ := isPosition_eq_true_iff.mp h
  exact (number?_of_rank hn (by omega) (by omega)).1

/-! ## Scroll amounts -/

/-- Whether a float is a number from minus one to one. -/
def InSpan (x : Single) : Prop := ∃ q, x.number? = some q ∧ -1 ≤ q ∧ q ≤ 1

theorem isScrollAmount_eq_true_iff {x : Single} :
    x.isScrollAmount = true ↔ ∃ n : Int, x.rank = some n ∧ -2 ^ 149 ≤ n ∧ n ≤ 2 ^ 149 := by
  obtain ⟨hless, -, hone⟩ := rank_ends
  rw [isScrollAmount, Binary.le, Binary.le, hless, hone]
  cases x.rank <;> simp

/-- **Scroll amounts** are the numbers from minus one to one. -/
theorem isScrollAmount_iff {x : Single} : x.isScrollAmount = true ↔ x.InSpan := by
  have hunits : (0 : ℚ) < 2 ^ 149 := by positivity
  rw [isScrollAmount_eq_true_iff]
  constructor
  · rintro ⟨n, hn, hlow, hhigh⟩
    refine ⟨(n : ℚ) / 2 ^ 149, (number?_of_rank hn hlow hhigh).2, ?_, ?_⟩
    · rw [le_div_iff₀ hunits, neg_one_mul]
      exact_mod_cast hlow
    · rw [div_le_one hunits]
      exact_mod_cast hhigh
  · rintro ⟨q, hq, hlow, hhigh⟩
    obtain ⟨n, hn, rfl⟩ := Binary.rank_of_number? hq
    have hlow : -1 ≤ (n : ℚ) / 2 ^ 149 := hlow
    have hhigh : (n : ℚ) / 2 ^ 149 ≤ 1 := hhigh
    rw [le_div_iff₀ hunits, neg_one_mul] at hlow
    rw [div_le_one hunits] at hhigh
    exact ⟨n, hn, by exact_mod_cast hlow, by exact_mod_cast hhigh⟩

instance (x : Single) : Decidable x.InSpan := decidable_of_iff _ isScrollAmount_iff

theorem isFinite_of_isScrollAmount {x : Single} (h : x.isScrollAmount = true) : x.IsFinite := by
  obtain ⟨n, hn, hlow, hhigh⟩ := isScrollAmount_eq_true_iff.mp h
  exact (number?_of_rank hn hlow hhigh).1

end Single

end VirtualTouchpad
