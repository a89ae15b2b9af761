/-
# What the search for the fewest digits finds

The range that a search is given and the decimals that it tries are taken as
rationals here.  `search_spec` says what a search gives: a point of the range on
a grid such that the next coarser grid was tried in vain.  A grid that is finer
than the way from the middle of the range down to its end is never tried in
vain, which bounds the digits of what is found.
-/
import VirtualTouchpad.Proofs.Numeric.Error

namespace VirtualTouchpad

/-! ## Decimals as rationals -/

/-- What a decimal is worth. -/
def Decimal.value (d : Decimal) : ℚ := d.digits * 10 ^ d.exponent

@[simp] theorem cast_tenTo (n : Nat) : ((tenTo n : Nat) : ℚ) = 10 ^ n := by
  simp only [Nat.pow_eq, Nat.cast_pow, Nat.cast_ofNat]

/-- A power of ten with any exponent is a quotient of two with exponents that are not negative. -/
theorem ten_zpow (p : Int) : (10 : ℚ) ^ p = (tenTo p.toNat : Nat) / (tenTo (-p).toNat : Nat) := by
  simp only [cast_tenTo]
  rcases Int.le_total 0 p with h | h
  · obtain ⟨n, rfl⟩ := Int.eq_ofNat_of_zero_le h
    simp
  · obtain ⟨n, hn⟩ := Int.eq_ofNat_of_zero_le (Int.neg_nonneg_of_nonpos h)
    obtain rfl : p = -(n : Int) := by omega
    simp

theorem ten_zpow_pos (p : Int) : (0 : ℚ) < 10 ^ p := zpow_pos (by norm_num) p

namespace RoundingRange

variable {r : RoundingRange} {tie : Tie} {p : Int} {d : Decimal}

/-! ## Ranges as intervals of rationals -/

/-- Whether a rational lies in the range. -/
def Holds (r : RoundingRange) (q : ℚ) : Prop :=
  r.low ≤ q * r.denominator ∧ q * r.denominator ≤ r.high ∧
    (r.closed = true ∨ r.low < q * r.denominator ∧ q * r.denominator < r.high)

theorem has_iff {n m : Nat} (hm : 0 < m) : r.has n m = true ↔ r.Holds (n / m) := by
  have hm' : (0 : ℚ) < m := by exact_mod_cast hm
  have hle : ((r.low : ℚ) ≤ n / m * r.denominator) ↔ r.low * m ≤ n * r.denominator := by
    rw [div_mul_eq_mul_div, le_div_iff₀ hm']; exact_mod_cast Iff.rfl
  have hge : ((n : ℚ) / m * r.denominator ≤ r.high) ↔ n * r.denominator ≤ r.high * m := by
    rw [div_mul_eq_mul_div, div_le_iff₀ hm']; exact_mod_cast Iff.rfl
  have hlt : ((r.low : ℚ) < n / m * r.denominator) ↔ r.low * m < n * r.denominator := by
    rw [div_mul_eq_mul_div, lt_div_iff₀ hm']; exact_mod_cast Iff.rfl
  have hgt : ((n : ℚ) / m * r.denominator < r.high) ↔ n * r.denominator < r.high * m := by
    rw [div_mul_eq_mul_div, div_lt_iff₀ hm']; exact_mod_cast Iff.rfl
  rw [Holds, hle, hge, hlt, hgt]
  cases hclosed : r.closed <;> simp [has, hclosed]
  omega

/-- A point of a grid is in the range if the search says so. -/
theorem has_grid_iff (n : Nat) :
    r.has (n * tenTo p.toNat) (tenTo (-p).toNat) = true ↔ r.Holds (n * 10 ^ p) := by
  have hdown : 0 < tenTo (-p).toNat := Nat.pow_pos (by decide)
  refine (has_iff hdown).trans ?_
  rw [ten_zpow, Nat.cast_mul, mul_div_assoc]

/-- What lies between two points of the range lies in it. -/
theorem Holds.between {a b q : ℚ} (ha : r.Holds a) (hb : r.Holds b) (haq : a ≤ q) (hqb : q ≤ b) :
    r.Holds q := by
  have hden : (0 : ℚ) ≤ r.denominator := Nat.cast_nonneg _
  have hlow := mul_le_mul_of_nonneg_right haq hden
  have hhigh := mul_le_mul_of_nonneg_right hqb hden
  obtain ⟨hage, -, hastrict⟩ := ha
  obtain ⟨-, hble, hbstrict⟩ := hb
  refine ⟨hage.trans hlow, hhigh.trans hble, ?_⟩
  rcases hastrict with hclosed | ⟨hagt, -⟩
  · exact .inl hclosed
  · exact hbstrict.imp_right fun h => ⟨hagt.trans_le hlow, hhigh.trans_lt h.2⟩

/-- The middle of the range. -/
def middle (r : RoundingRange) : ℚ := r.value / r.denominator

/-- The ends lie around the middle. -/
structure Proper (r : RoundingRange) : Prop where
  denominator_pos : 0 < r.denominator
  low_pos : 0 < r.low
  low_lt : r.low < r.value
  lt_high : r.value < r.high

/-- Both ends are equally far from the middle. -/
def Symmetric (r : RoundingRange) : Prop := r.low + r.high = 2 * r.value

theorem Proper.middle_mul (hr : r.Proper) : r.middle * r.denominator = r.value := by
  have := hr.denominator_pos
  rw [middle, div_mul_cancel₀]
  exact_mod_cast this.ne'

theorem Proper.holds_middle (hr : r.Proper) : r.Holds r.middle := by
  have hlow : (r.low : ℚ) < r.value := by exact_mod_cast hr.low_lt
  have hhigh : (r.value : ℚ) < r.high := by exact_mod_cast hr.lt_high
  rw [Holds, hr.middle_mul]
  exact ⟨hlow.le, hhigh.le, .inr ⟨hlow, hhigh⟩⟩

/-! ## The two neighbours on a grid -/

/-- The point of a grid at the middle or next below it, in steps of the grid. -/
def below (r : RoundingRange) (p : Int) : Nat :=
  r.value * tenTo (-p).toNat / (r.denominator * tenTo p.toNat)

theorem Proper.below_le (hr : r.Proper) (p : Int) : (r.below p : ℚ) * 10 ^ p ≤ r.middle := by
  have hle : r.below p * (r.denominator * tenTo p.toNat) ≤ r.value * tenTo (-p).toNat :=
    Nat.div_mul_le_self _ _
  have hcast : (r.below p * (r.denominator * (tenTo p.toNat : Nat)) : ℚ) ≤
      r.value * (tenTo (-p).toNat : Nat) := by exact_mod_cast hle
  have hden : (0 : ℚ) < r.denominator := by exact_mod_cast hr.denominator_pos
  have hdown : (0 : ℚ) < (tenTo (-p).toNat : Nat) := by
    exact_mod_cast Nat.pow_pos (a := 10) (by decide)
  rw [ten_zpow, middle, mul_div_assoc', div_le_div_iff₀ hdown hden]
  linarith

theorem Proper.lt_below_succ (hr : r.Proper) (p : Int) :
    r.middle < ((r.below p : ℚ) + 1) * 10 ^ p := by
  have hden := hr.denominator_pos
  have hup : 0 < tenTo p.toNat := Nat.pow_pos (by decide)
  have hlt : r.value * tenTo (-p).toNat < (r.below p + 1) * (r.denominator * tenTo p.toNat) := by
    rw [Nat.mul_comm (r.below p + 1)]
    exact Nat.lt_mul_div_succ _ (Nat.mul_pos hden hup)
  have hcast : (r.value * (tenTo (-p).toNat : Nat) : ℚ) <
      (r.below p + 1) * (r.denominator * (tenTo p.toNat : Nat)) := by exact_mod_cast hlt
  have hden' : (0 : ℚ) < r.denominator := by exact_mod_cast hden
  have hdown : (0 : ℚ) < (tenTo (-p).toNat : Nat) := by
    exact_mod_cast Nat.pow_pos (a := 10) (by decide)
  rw [ten_zpow, middle, mul_div_assoc', div_lt_div_iff₀ hden' hdown]
  linarith

/-- Whether the search takes the lower one of two neighbours that lie in the range. -/
def takesBelow (r : RoundingRange) (tie : Tie) (p : Int) : Bool :=
  let twice := 2 * (r.value * tenTo (-p).toNat)
  let half := (2 * r.below p + 1) * (r.denominator * tenTo p.toNat)
  if twice = half then tie == .even && r.below p % 2 == 0 else twice < half

theorem nearestOn_eq (r : RoundingRange) (tie : Tie) (p : Int) :
    r.nearestOn tie p =
      match r.has (r.below p * tenTo p.toNat) (tenTo (-p).toNat),
        r.has ((r.below p + 1) * tenTo p.toNat) (tenTo (-p).toNat) with
      | true, true => some ⟨if r.takesBelow tie p then r.below p else r.below p + 1, p⟩
      | true, false => some ⟨r.below p, p⟩
      | false, true => some ⟨r.below p + 1, p⟩
      | false, false => none := rfl

/-- A grid is tried in vain if neither neighbour lies in the range. -/
theorem nearestOn_eq_none_iff : r.nearestOn tie p = none ↔
    ¬ r.Holds ((r.below p : ℚ) * 10 ^ p) ∧ ¬ r.Holds (((r.below p + 1 : Nat) : ℚ) * 10 ^ p) := by
  rw [← has_grid_iff, ← has_grid_iff, nearestOn_eq]
  cases r.has (r.below p * tenTo p.toNat) (tenTo (-p).toNat) <;>
    cases r.has ((r.below p + 1) * tenTo p.toNat) (tenTo (-p).toNat) <;>
    simp

/-- What the search compares, as rationals over one scale. -/
theorem Proper.compared (hr : r.Proper) (p : Int) : ∃ scale : ℚ, 0 < scale ∧
    ((2 * (r.value * tenTo (-p).toNat) : Nat) : ℚ) = 2 * r.middle * scale ∧
    (((2 * r.below p + 1) * (r.denominator * tenTo p.toNat) : Nat) : ℚ) =
      (2 * r.below p + 1) * 10 ^ p * scale := by
  have hden : (0 : ℚ) < r.denominator := by exact_mod_cast hr.denominator_pos
  have hdown : (0 : ℚ) < (tenTo (-p).toNat : Nat) := by
    exact_mod_cast Nat.pow_pos (a := 10) (by decide)
  refine ⟨r.denominator * (tenTo (-p).toNat : Nat), mul_pos hden hdown, ?_, ?_⟩
  · push_cast
    rw [← hr.middle_mul]
    ring
  · rw [ten_zpow]
    push_cast
    field_simp

/-- The lower neighbour is taken if the middle is not beyond the half way to the upper one. -/
theorem Proper.le_of_takesBelow (hr : r.Proper) (h : r.takesBelow tie p = true) :
    2 * r.middle ≤ (2 * r.below p + 1) * 10 ^ p := by
  have hle : 2 * (r.value * tenTo (-p).toNat) ≤
      (2 * r.below p + 1) * (r.denominator * tenTo p.toNat) := by
    simp only [takesBelow] at h
    split at h
    next heq => exact heq.le
    next => exact (of_decide_eq_true h).le
  obtain ⟨scale, hscale, htwice, hhalf⟩ := hr.compared p
  have hcast := (Nat.cast_le (α := ℚ)).2 hle
  rw [htwice, hhalf] at hcast
  exact le_of_mul_le_mul_right hcast hscale

/-- The upper neighbour is taken if the middle is not before the half way to it. -/
theorem Proper.le_of_not_takesBelow (hr : r.Proper) (h : r.takesBelow tie p = false) :
    (2 * r.below p + 1) * 10 ^ p ≤ 2 * r.middle := by
  have hle : (2 * r.below p + 1) * (r.denominator * tenTo p.toNat) ≤
      2 * (r.value * tenTo (-p).toNat) := by
    simp only [takesBelow] at h
    split at h
    next heq => exact heq.ge
    next => exact not_lt.1 (of_decide_eq_false h)
  obtain ⟨scale, hscale, htwice, hhalf⟩ := hr.compared p
  have hcast := (Nat.cast_le (α := ℚ)).2 hle
  rw [htwice, hhalf] at hcast
  exact le_of_mul_le_mul_right hcast hscale

/-- Of two neighbours in the range the nearer one is taken. -/
theorem Proper.abs_takesBelow_sub_le (hr : r.Proper) (tie : Tie) (p : Int) :
    |((if r.takesBelow tie p then r.below p else r.below p + 1 : Nat) : ℚ) * 10 ^ p - r.middle| ≤
      10 ^ p / 2 := by
  have hbelow := hr.below_le p
  have habove := hr.lt_below_succ p
  rw [abs_le]
  cases htakes : r.takesBelow tie p with
  | true =>
    have hle := hr.le_of_takesBelow htakes
    simp only [if_true]
    constructor <;> linarith
  | false =>
    have hge := hr.le_of_not_takesBelow htakes
    simp only [Bool.false_eq_true, if_false]
    push_cast
    constructor <;> linarith

/-- If one of the neighbours lies in a symmetric range and the other does not, it is the nearer. -/
theorem Proper.abs_sub_le_of_holds (hr : r.Proper) (hsym : r.Symmetric) {q q' : ℚ}
    (h : r.Holds q) (h' : ¬ r.Holds q') : |q - r.middle| ≤ |q' - r.middle| := by
  have hden : (0 : ℚ) < r.denominator := by exact_mod_cast hr.denominator_pos
  have hmiddle := hr.middle_mul
  have hsum : (r.low + r.high : ℚ) = 2 * r.value := by exact_mod_cast hsym
  by_contra hlt
  rw [not_le] at hlt
  refine h' ?_
  obtain ⟨hlow, hhigh, hstrict⟩ := h
  -- `q'` is nearer to the middle than `q`, which is in the range
  have hdist : |q' - r.middle| * r.denominator < |q - r.middle| * r.denominator :=
    mul_lt_mul_of_pos_right hlt hden
  rw [← abs_of_pos hden, ← abs_mul, ← abs_mul, sub_mul, sub_mul, hmiddle] at hdist
  have hq : |q * r.denominator - r.value| ≤ r.high - r.value := by
    rw [abs_le]; constructor <;> linarith
  have hq' := abs_lt.1 (hdist.trans_le hq)
  exact ⟨by linarith [hq'.1], by linarith [hq'.2], .inr ⟨by linarith [hq'.1], by linarith [hq'.2]⟩⟩

/-- What is found on a grid: one of the two neighbours of the middle, the nearer one if the range
is symmetric, and it lies in the range. -/
theorem Proper.nearestOn_spec (hr : r.Proper) (h : r.nearestOn tie p = some d) :
    d.exponent = p ∧ r.Holds d.value ∧ d.digits ≤ r.below p + 1 ∧
      (r.Symmetric → |d.value - r.middle| ≤ 10 ^ p / 2) := by
  have hbelow := hr.below_le p
  have habove := hr.lt_below_succ p
  have hlower := has_grid_iff (r := r) (p := p) (r.below p)
  have hupper := has_grid_iff (r := r) (p := p) (r.below p + 1)
  have hdownward : |(r.below p : ℚ) * 10 ^ p - r.middle| = r.middle - r.below p * 10 ^ p := by
    rw [abs_sub_comm, abs_of_nonneg (by linarith)]
  have hupward : |((r.below p + 1 : Nat) : ℚ) * 10 ^ p - r.middle| =
      (r.below p + 1) * 10 ^ p - r.middle := by
    push_cast; exact abs_of_pos (by linarith)
  rw [nearestOn_eq] at h
  cases hl : r.has (r.below p * tenTo p.toNat) (tenTo (-p).toNat) <;>
    cases hu : r.has ((r.below p + 1) * tenTo p.toNat) (tenTo (-p).toNat) <;>
    simp only [hl, hu, Option.some.injEq, reduceCtorEq] at h <;> subst h
  · -- only the upper neighbour is in the range
    have hnot : ¬ r.Holds ((r.below p : ℚ) * 10 ^ p) := by rw [← hlower, hl]; decide
    refine ⟨rfl, hupper.1 hu, le_refl _, fun hsym => ?_⟩
    have hnear := hr.abs_sub_le_of_holds hsym (hupper.1 hu) hnot
    simp only [Decimal.value]
    linarith
  · -- only the lower neighbour is in the range
    have hnot : ¬ r.Holds (((r.below p + 1 : Nat) : ℚ) * 10 ^ p) := by rw [← hupper, hu]; decide
    refine ⟨rfl, hlower.1 hl, Nat.le_succ _, fun hsym => ?_⟩
    have hnear := hr.abs_sub_le_of_holds hsym (hlower.1 hl) hnot
    simp only [Decimal.value]
    linarith
  · refine ⟨rfl, ?_, ?_, fun _ => hr.abs_takesBelow_sub_le tie p⟩
    · simp only [Decimal.value]
      split
      · exact hlower.1 hl
      · exact hupper.1 hu
    · dsimp only
      split
      · exact Nat.le_succ _
      · exact le_refl _

/-- A grid is not tried in vain if it is finer than the way down to the end of the range. -/
theorem Proper.le_of_nearestOn_eq_none (hr : r.Proper) (h : r.nearestOn tie p = none) :
    (r.value - r.low : ℚ) < 10 ^ p * r.denominator := by
  by_contra hle
  rw [not_lt] at hle
  have hden : (0 : ℚ) < r.denominator := by exact_mod_cast hr.denominator_pos
  have hhigh : (r.value : ℚ) < r.high := by exact_mod_cast hr.lt_high
  have hbelow := mul_le_mul_of_nonneg_right (hr.below_le p) hden.le
  have habove := mul_lt_mul_of_pos_right (hr.lt_below_succ p) hden
  rw [hr.middle_mul] at hbelow habove
  rw [add_mul, one_mul, add_mul] at habove
  refine (nearestOn_eq_none_iff.1 h).1 ?_
  exact ⟨by linarith, by linarith, .inr ⟨by linarith, by linarith⟩⟩

/-- A grid that has a point in the range is not tried in vain: if it has any, then one of the two
neighbours of the middle is one. -/
theorem Proper.nearestOn_ne_none_of_holds (hr : r.Proper) {n : Nat} (h : r.Holds (n * 10 ^ p)) :
    r.nearestOn tie p ≠ none := by
  have hgrid := (ten_zpow_pos p).le
  rw [Ne, nearestOn_eq_none_iff, not_and_or, not_not, not_not]
  rcases Nat.lt_or_ge (r.below p) n with habove | hbelow
  · -- the point lies above the middle, so the upper neighbour lies between the two
    have hle : ((r.below p + 1 : Nat) : ℚ) ≤ n := by exact_mod_cast habove
    have hmiddle : r.middle ≤ ((r.below p + 1 : Nat) : ℚ) * 10 ^ p := by
      exact_mod_cast (hr.lt_below_succ p).le
    exact .inr (hr.holds_middle.between h hmiddle (mul_le_mul_of_nonneg_right hle hgrid))
  · -- the point lies below the middle, so the lower neighbour lies between the two
    have hle : (n : ℚ) ≤ r.below p := by exact_mod_cast hbelow
    exact .inl (h.between hr.holds_middle (mul_le_mul_of_nonneg_right hle hgrid) (hr.below_le p))

/-- A grid that is tried in vain has no coarser one that is not. -/
theorem Proper.nearestOn_eq_none_of_le (hr : r.Proper) {p' : Int} (h : r.nearestOn tie p = none)
    (hle : p ≤ p') : r.nearestOn tie p' = none := by
  by_contra hfound
  obtain ⟨d, hd⟩ := Option.ne_none_iff_exists'.1 hfound
  obtain ⟨hexponent, hholds, -⟩ := hr.nearestOn_spec hd
  obtain ⟨k, hk⟩ := Int.eq_ofNat_of_zero_le (Int.sub_nonneg_of_le hle)
  -- a point of the coarser grid is one of the finer grid
  have hsame : d.value = (d.digits * 10 ^ k : Nat) * 10 ^ p := by
    have hsplit : (10 : ℚ) ^ p' = 10 ^ k * 10 ^ p := by
      rw [← zpow_natCast, ← zpow_add₀ (by norm_num)]
      congr 1
      omega
    rw [Decimal.value, hexponent, hsplit]
    push_cast
    ring
  rw [hsame] at hholds
  exact hr.nearestOn_ne_none_of_holds hholds h

/-! ## The search -/

/-- What a search gives was found on one of its grids, and the next coarser grid was tried in vain
unless it is the first. -/
theorem search_eq_some {steps : Nat} (h : r.search tie steps p = some d) :
    ∃ k ≤ steps, r.nearestOn tie (p - k) = some d ∧
      (0 < k → r.nearestOn tie (p - k + 1) = none) := by
  induction steps generalizing p with
  | zero => exact ⟨0, le_refl 0, by simpa [search] using h, by simp⟩
  | succ steps ih =>
    rw [search] at h
    cases hp : r.nearestOn tie p with
    | some found => exact ⟨0, Nat.zero_le _, by simpa [hp] using h, by simp⟩
    | none =>
      obtain ⟨k, hk, hfound, hcoarser⟩ := ih (by simpa [hp] using h)
      refine ⟨k + 1, Nat.succ_le_succ hk, ?_, fun _ => ?_⟩
      · rwa [Int.sub_sub, Int.add_comm] at hfound
      · rcases Nat.eq_zero_or_pos k with rfl | hpos
        · simpa using hp
        · have := hcoarser hpos
          rwa [Int.sub_sub, Int.add_comm 1] at this

/-- A search that gives nothing tried its last grid in vain. -/
theorem nearestOn_of_search_eq_none {steps : Nat} (h : r.search tie steps p = none) :
    r.nearestOn tie (p - steps) = none := by
  induction steps generalizing p with
  | zero => simpa [search] using h
  | succ steps ih =>
    rw [search] at h
    cases hp : r.nearestOn tie p with
    | some found => simp [hp] at h
    | none =>
      have := ih (by simpa [hp] using h)
      rwa [Int.sub_sub, Int.add_comm] at this

end RoundingRange

namespace Binary

variable {f : BinaryFormat} {x : Binary f}

/-! ## The shortest decimal of a number -/

/-- The way from a number down to the end of its range. -/
def reachDown (x : Binary f) : Nat :=
  if x.fractionField = 0 ∧ 1 < x.exponentField then 2 ^ x.scale else 2 * 2 ^ x.scale

theorem le_reachDown (x : Binary f) : 2 ^ x.scale ≤ x.reachDown := by
  rw [reachDown]; split <;> omega

theorem reachDown_le (x : Binary f) : x.reachDown ≤ 2 * 2 ^ x.scale := by
  rw [reachDown]; split <;> omega

theorem roundingRange_eq (x : Binary f) : x.roundingRange =
    ⟨4 * (x.coefficient * 2 ^ x.scale) - x.reachDown, 4 * (x.coefficient * 2 ^ x.scale),
      4 * (x.coefficient * 2 ^ x.scale) + 2 * 2 ^ x.scale, 4 * 2 ^ f.unitBits,
      x.coefficient % 2 = 0⟩ := rfl

theorem scale_le_units (hx : x.coefficient ≠ 0) : 2 ^ x.scale ≤ x.coefficient * 2 ^ x.scale :=
  Nat.le_mul_of_pos_left _ (Nat.pos_of_ne_zero hx)

theorem proper_roundingRange (hx : x.coefficient ≠ 0) : x.roundingRange.Proper := by
  have hunits := scale_le_units hx
  have hpos : 0 < 2 ^ x.scale := Nat.two_pow_pos _
  have hreach := x.le_reachDown
  have hreach' := x.reachDown_le
  rw [roundingRange_eq]
  exact ⟨by positivity, by dsimp only; omega, by dsimp only; omega, by dsimp only; omega⟩

theorem middle_roundingRange (x : Binary f) : x.roundingRange.middle = x.value := by
  rw [RoundingRange.middle, roundingRange_eq, value, units]
  push_cast
  rw [mul_div_mul_left _ _ (by norm_num)]

/-- The exponent that the search starts at. -/
def startExponent (x : Binary f) : Nat :=
  (Nat.toDigits 10 (x.roundingRange.value / x.roundingRange.denominator)).length

theorem below_startExponent (hx : x.coefficient ≠ 0) :
    x.roundingRange.below x.startExponent = 0 := by
  have hden := (proper_roundingRange hx).denominator_pos
  have hlt : x.roundingRange.value / x.roundingRange.denominator < 10 ^ x.startExponent :=
    (Nat.length_toDigits_le_iff (by decide) Nat.length_toDigits_pos).1 (le_refl _)
  rw [RoundingRange.below, Nat.div_eq_of_lt]
  rw [Int.toNat_natCast, Int.toNat_neg_natCast, Nat.mul_comm x.roundingRange.denominator]
  exact (Nat.mul_one _).trans_lt ((Nat.div_lt_iff_lt_mul hden).1 hlt)

/-- What the shortest decimal of a number is: in the rounding range, nearest to the number where
the range is symmetric, and with an exponent and digits in these bounds. -/
structure IsShortest (x : Binary f) (d : Decimal) : Prop where
  holds : x.roundingRange.Holds d.value
  near : x.roundingRange.Symmetric → |d.value - x.value| ≤ 10 ^ d.exponent / 2
  exponent_le : d.exponent ≤ x.startExponent
  le_exponent : -(f.unitBits + 2 : Int) ≤ d.exponent
  digits_pos : 0 < d.digits
  digits_lt : d.digits < 2 ^ (f.fractionBits + 7)

theorem value_sub_low (hx : x.coefficient ≠ 0) :
    (x.roundingRange.value - x.roundingRange.low : ℚ) = x.reachDown := by
  have hunits := scale_le_units hx
  have hreach := x.reachDown_le
  rw [roundingRange_eq, Nat.cast_sub (by omega)]
  ring

/-- The last grid of the search is not tried in vain. -/
theorem nearestOn_ne_none (hx : x.coefficient ≠ 0) (tie : Tie) :
    x.roundingRange.nearestOn tie (-(f.unitBits + 2 : Int)) ≠ none := by
  intro hnone
  have hlt := (proper_roundingRange hx).le_of_nearestOn_eq_none hnone
  have hreach : (1 : ℚ) ≤ x.reachDown := by
    exact_mod_cast Nat.le_trans (Nat.two_pow_pos _) x.le_reachDown
  have hfine : (10 : ℚ) ^ (-(f.unitBits + 2 : Int)) * x.roundingRange.denominator ≤ 1 := by
    have hpow : 4 * 2 ^ f.unitBits ≤ 10 ^ (f.unitBits + 2) := by
      rw [Nat.pow_add, Nat.mul_comm]
      exact Nat.mul_le_mul (Nat.pow_le_pow_left (by decide) _) (by decide)
    have hpow' : (4 * 2 ^ f.unitBits : ℚ) ≤ 10 ^ (f.unitBits + 2) := by exact_mod_cast hpow
    have hexponent : (f.unitBits + 2 : Int) = ((f.unitBits + 2 : Nat) : Int) := by push_cast; rfl
    rw [hexponent, zpow_neg, zpow_natCast, ← div_eq_inv_mul, div_le_one (by positivity)]
    simpa [roundingRange_eq] using hpow'
  rw [value_sub_low hx] at hlt
  linarith

/-- The range ends below `2 ^ (fractionBits + 3)` quarters of the number's own step. -/
theorem high_roundingRange_le (x : Binary f) :
    x.roundingRange.high ≤ 2 ^ (f.fractionBits + 3) * 2 ^ x.scale := by
  have hc : x.coefficient + 1 ≤ 2 ^ (f.fractionBits + 1) := x.coefficient_lt
  have hle := Nat.mul_le_mul_right (4 * 2 ^ x.scale) hc
  rw [Nat.add_mul, Nat.one_mul, Nat.mul_left_comm] at hle
  have hpow : 2 ^ (f.fractionBits + 3) * 2 ^ x.scale =
      2 ^ (f.fractionBits + 1) * (4 * 2 ^ x.scale) := by rw [Nat.pow_add, Nat.pow_add]; ring
  rw [hpow, roundingRange_eq]
  dsimp only
  omega

/-- A decimal in the range has few digits if the next coarser grid was tried in vain. -/
theorem digits_lt_of_coarser {d : Decimal} (tie : Tie) (hx : x.coefficient ≠ 0)
    (hholds : x.roundingRange.Holds d.value)
    (hnone : x.roundingRange.nearestOn tie (d.exponent + 1) = none) :
    d.digits < 2 ^ (f.fractionBits + 7) := by
  have hden : (0 : ℚ) < x.roundingRange.denominator := by
    exact_mod_cast (proper_roundingRange hx).denominator_pos
  -- one step of the coarser grid is more than a quarter of the number's own step
  have hcoarse := (proper_roundingRange hx).le_of_nearestOn_eq_none hnone
  rw [value_sub_low hx, zpow_add_one₀ (by norm_num)] at hcoarse
  have hreach : (2 ^ x.scale : ℚ) ≤ x.reachDown := by exact_mod_cast x.le_reachDown
  have hhigh : (x.roundingRange.high : ℚ) ≤ 2 ^ (f.fractionBits + 3) * 2 ^ x.scale := by
    exact_mod_cast x.high_roundingRange_le
  have hstep : (2 ^ x.scale : ℚ) ≤ 10 * (10 ^ d.exponent * x.roundingRange.denominator) := by
    linarith
  have hdigits : (d.digits : ℚ) * (10 ^ d.exponent * x.roundingRange.denominator) ≤
      2 ^ (f.fractionBits + 3) * 2 ^ x.scale := by
    have := hholds.2.1
    rw [Decimal.value, mul_assoc] at this
    linarith
  have hgrid : (0 : ℚ) < 10 ^ d.exponent * x.roundingRange.denominator :=
    mul_pos (ten_zpow_pos _) hden
  have hbound : (d.digits : ℚ) ≤ 2 ^ (f.fractionBits + 3) * 10 := by
    refine le_of_mul_le_mul_right (hdigits.trans ?_) hgrid
    rw [mul_assoc]
    exact mul_le_mul_of_nonneg_left hstep (by positivity)
  have hbound' : d.digits ≤ 2 ^ (f.fractionBits + 3) * 10 := by exact_mod_cast hbound
  have hpow : 2 ^ (f.fractionBits + 7) = 2 ^ (f.fractionBits + 3) * 16 := by
    rw [Nat.pow_add, Nat.pow_add]; ring
  have hpos : 0 < 2 ^ (f.fractionBits + 3) := Nat.two_pow_pos _
  omega

/-- The shortest decimal was found by the search. -/
theorem search_shortest (hx : x.coefficient ≠ 0) (tie : Tie) :
    x.roundingRange.search tie (x.startExponent + f.unitBits + 2) x.startExponent =
      some (x.shortest tie) := by
  have hshortest : x.shortest tie = (x.roundingRange.search tie
      (x.startExponent + f.unitBits + 2) x.startExponent).getD ⟨0, 0⟩ := if_neg hx
  cases hsearch : x.roundingRange.search tie (x.startExponent + f.unitBits + 2)
      x.startExponent with
  | none =>
    have hlast := RoundingRange.nearestOn_of_search_eq_none hsearch
    have hend : (x.startExponent : Int) - (x.startExponent + f.unitBits + 2 : Nat) =
        -(f.unitBits + 2 : Int) := by push_cast; omega
    rw [hend] at hlast
    exact absurd hlast (nearestOn_ne_none hx tie)
  | some d => rw [hshortest, hsearch, Option.getD_some]

/-- What lies on the coarsest grid that is not tried in vain is the shortest decimal. -/
theorem shortest_eq {tie : Tie} {p : Int} {d : Decimal} (hx : x.coefficient ≠ 0)
    (hp : p ≤ x.startExponent) (hfound : x.roundingRange.nearestOn tie p = some d)
    (hnone : x.roundingRange.nearestOn tie (p + 1) = none) : x.shortest tie = d := by
  have hproper := proper_roundingRange hx
  obtain ⟨k, -, hk, hcoarser⟩ := RoundingRange.search_eq_some (search_shortest hx tie)
  rcases lt_trichotomy p (x.startExponent - k) with hlt | heq | hgt
  · have := hproper.nearestOn_eq_none_of_le hnone (Int.add_one_le_of_lt hlt)
    simp [hk] at this
  · rw [← heq, hfound] at hk
    exact (Option.some.inj hk).symm
  · have := hproper.nearestOn_eq_none_of_le (hcoarser (by omega)) (Int.add_one_le_of_lt hgt)
    simp [hfound] at this

theorem isShortest_shortest (hx : x.coefficient ≠ 0) (tie : Tie) :
    x.IsShortest (x.shortest tie) := by
  have hproper := proper_roundingRange hx
  obtain ⟨k, hk, hfound, hcoarser⟩ := RoundingRange.search_eq_some (search_shortest hx tie)
  obtain ⟨hexponent, hholds, hdigits, hnear⟩ := hproper.nearestOn_spec hfound
  refine ⟨hholds, fun hsym => ?_, by omega, by omega, ?_, ?_⟩
  · rw [← middle_roundingRange, hexponent]
    exact hnear hsym
  · refine Nat.pos_of_ne_zero fun h0 => ?_
    have hlow : (0 : ℚ) < x.roundingRange.low := by exact_mod_cast hproper.low_pos
    have hholds0 := hholds.1
    rw [Decimal.value, h0, Nat.cast_zero, zero_mul, zero_mul] at hholds0
    linarith
  · rcases Nat.eq_zero_or_pos k with rfl | hpos
    · rw [Int.ofNat_zero, Int.sub_zero, below_startExponent hx] at hdigits
      exact Nat.lt_of_le_of_lt hdigits (Nat.one_lt_two_pow (by omega))
    · refine digits_lt_of_coarser tie hx hholds ?_
      rw [hexponent]
      exact hcoarser hpos

end Binary

end VirtualTouchpad
