/-
# Short decimals as floats

A number with a fraction or an exponent is read as a 64-bit float, in two or
three roundings: of its digits, of a power of ten, and of their product or
quotient.  `scaledOnce_spec` bounds what they are off by, and says where they are
not off at all.
-/
import VirtualTouchpad.Json.Numeral
import VirtualTouchpad.Proofs.Numeric.Boundary

namespace VirtualTouchpad.Json

open Binary

/-! ## Powers of ten -/

theorem ten_pow_le {k : Nat} (hk : k ≤ 300) : (10 : ℚ) ^ k ≤ 2 ^ 1000 := by
  calc (10 : ℚ) ^ k ≤ 10 ^ 300 := pow_le_pow_right₀ (by norm_num) hk
    _ = (10 ^ 3) ^ 100 := by rw [← pow_mul]
    _ ≤ (2 ^ 10) ^ 100 := pow_le_pow_left₀ (by norm_num) (by norm_num) _
    _ = 2 ^ 1000 := by rw [← pow_mul]

theorem rounded_powerOfTen {k : Nat} (hk : k ≤ 300) : Rounded false (10 ^ k) (powerOfTen k) := by
  have hone : (1 : ℚ) ≤ 10 ^ k := one_le_pow₀ (by norm_num)
  have hrounded := rounded_ofRatio false (tenTo k) (le_refl 1000) Nat.one_pos
  rw [cast_tenTo, Nat.cast_one, div_one] at hrounded
  refine hrounded ?_ (ten_pow_le hk)
  exact one_le_mul_of_one_le_of_one_le hone (one_le_pow₀ (by norm_num))

/-- Rounding does not take a power of ten far. -/
theorem powerOfTen_bounds {k : Nat} (hk : k ≤ 300) :
    1 / 2 ≤ (powerOfTen k).value ∧ (powerOfTen k).value ≤ 10 ^ (k + 1) := by
  obtain ⟨hlow, hhigh⟩ := abs_le.1 (rounded_powerOfTen hk).near
  have hone : (1 : ℚ) ≤ 10 ^ k := one_le_pow₀ (by norm_num)
  rw [pow_succ]
  constructor <;> linarith

/-- Small powers of ten are not rounded. -/
theorem value_powerOfTen {k : Nat} (hk : k ≤ 22) : (powerOfTen k).value = 10 ^ k := by
  refine (rounded_powerOfTen (by omega)).exact (5 ^ k) (k + BinaryFormat.double.unitBits) ?_ ?_
  · calc 5 ^ k ≤ 5 ^ 22 := Nat.pow_le_pow_right (by decide) hk
      _ < 2 ^ 53 := by decide
  · have hten : (10 : ℚ) ^ k = 5 ^ k * 2 ^ k := by rw [← mul_pow]; norm_num
    rw [hten, pow_add]
    push_cast
    field_simp

/-! ## One product or quotient -/

/-- The float for `n * 10 ^ e` by a single product or quotient. -/
def scaledOnce (n : Nat) (e : Int) : Double :=
  if e < 0 then (ofRatio .double false n 1).div (powerOfTen e.natAbs)
  else (ofRatio .double false n 1).mul (powerOfTen e.natAbs)

/-- For exponents of moderate size the reader takes a single product or quotient. -/
theorem scaledFloat_eq {n : Nat} {e : Int} (hn : n ≠ 0 ∨ e < 0) (hexp : e.natAbs ≤ 308)
    (hfinite : (scaledOnce n e).IsFinite) : scaledFloat n e = .ok (scaledOnce n e) := by
  rw [scaledOnce] at hfinite ⊢
  by_cases he : e < 0
  · rw [if_pos he] at hfinite ⊢
    simp only [scaledFloat, if_pos he]
    rw [divideByPower, if_pos (by omega)]
  · rw [if_neg he] at hfinite ⊢
    have hbelow := (magnitude_lt_of_isFinite hfinite).ne
    have hlarge : ¬ (308 : Int) < e := by omega
    simp only [scaledFloat, if_neg he, if_neg (hn.resolve_right he), if_neg hlarge, if_neg hbelow]

/-- A product with a rounded factor, rounded. -/
theorem abs_mul_sub_le {n t power y : ℚ} (hn : 0 ≤ n) (ht : 0 ≤ t)
    (hpower : |power - t| ≤ t / 2 ^ 53) (hy : |y - n * power| ≤ n * power / 2 ^ 53) :
    |y - n * t| ≤ n * t * slack := by
  have hfactor : |n * power - n * t| ≤ n * t / 2 ^ 53 := by
    rw [← mul_sub, abs_mul, abs_of_nonneg hn, mul_div_assoc]
    exact mul_le_mul_of_nonneg_left hpower hn
  have hsize : n * power ≤ n * t * (1 + 1 / 2 ^ 53) := by
    have := (abs_le.1 hfactor).2
    linarith
  have hnt : 0 ≤ n * t := mul_nonneg hn ht
  calc |y - n * t| ≤ |y - n * power| + |n * power - n * t| := abs_sub_le _ _ _
    _ ≤ n * t * (1 + 1 / 2 ^ 53) / 2 ^ 53 + n * t / 2 ^ 53 := by linarith
    _ = n * t * ((1 + 1 / 2 ^ 53) / 2 ^ 53 + 1 / 2 ^ 53) := by ring
    _ ≤ n * t * slack := mul_le_mul_of_nonneg_left (by norm_num [slack]) hnt

/-- A quotient by a rounded divisor, rounded. -/
theorem abs_div_sub_le {n t power y : ℚ} (hn : 0 ≤ n) (ht : 0 < t)
    (hpower : |power - t| ≤ t / 2 ^ 53) (hy : |y - n / power| ≤ n / power / 2 ^ 53) :
    |y - n / t| ≤ n / t * slack := by
  have hlow : t * (1 - 1 / 2 ^ 53) ≤ power := by
    have := (abs_le.1 hpower).1
    linarith
  have hpos : 0 < power := lt_of_lt_of_le (mul_pos ht (by norm_num)) hlow
  have hsize : n / power ≤ n / t * (1 / (1 - 1 / 2 ^ 53)) := by
    rw [div_mul_div_comm, mul_one]
    exact div_le_div_of_nonneg_left hn (mul_pos ht (by norm_num)) hlow
  have hdivisor : |n / power - n / t| ≤ n / power / 2 ^ 53 := by
    have hsplit : n / power - n / t = n / power * ((t - power) / t) := by field_simp
    have hshare : |(t - power) / t| ≤ 1 / 2 ^ 53 := by
      rw [abs_div, abs_of_pos ht, div_le_iff₀ ht, abs_sub_comm]
      linarith
    rw [hsplit, abs_mul, abs_of_nonneg (div_nonneg hn hpos.le), div_eq_mul_one_div (n / power)]
    exact mul_le_mul_of_nonneg_left hshare (div_nonneg hn hpos.le)
  have hnt : 0 ≤ n / t := div_nonneg hn ht.le
  calc |y - n / t| ≤ |y - n / power| + |n / power - n / t| := abs_sub_le _ _ _
    _ ≤ n / power / 2 ^ 53 + n / power / 2 ^ 53 := add_le_add hy hdivisor
    _ ≤ n / t * (1 / (1 - 1 / 2 ^ 53)) / 2 ^ 53 + n / t * (1 / (1 - 1 / 2 ^ 53)) / 2 ^ 53 := by
        linarith
    _ = n / t * (1 / (1 - 1 / 2 ^ 53) / 2 ^ 53 * 2) := by ring
    _ ≤ n / t * slack := mul_le_mul_of_nonneg_left (by norm_num [slack]) hnt

section Single

variable {n k : Nat}

theorem rounded_product (hn : 0 < n) (hlt : n < 2 ^ 53) (hk : k ≤ 200) :
    Rounded false (n * (powerOfTen k).value) ((ofRatio .double false n 1).mul (powerOfTen k)) := by
  obtain ⟨hfinite, hsign, hvalue⟩ := rounded_whole hn hlt
  have hpower := rounded_powerOfTen (k := k) (by omega)
  obtain ⟨hlow, hhigh⟩ := powerOfTen_bounds (k := k) (by omega)
  have hn' : (1 : ℚ) ≤ n := by exact_mod_cast hn
  have hlt' : (n : ℚ) ≤ 10 ^ 16 := by exact_mod_cast hlt.le.trans (by decide)
  have hpos : 0 < (powerOfTen k).value := by linarith
  have hrounded := rounded_mul (k := 1000) hfinite hpower.isFinite (le_refl _)
  rw [hvalue, hsign, hpower.negative_eq] at hrounded
  refine hrounded ?_ ?_
  · have hbig : (2 : ℚ) ≤ 2 ^ 1000 := by
      calc (2 : ℚ) = 2 ^ 1 := (pow_one _).symm
        _ ≤ 2 ^ 1000 := pow_le_pow_right₀ (by norm_num) (by norm_num)
    have hhalf : 1 / 2 ≤ (n : ℚ) * (powerOfTen k).value :=
      hlow.trans (le_mul_of_one_le_left hpos.le hn')
    calc (1 : ℚ) = 1 / 2 * 2 := by norm_num
      _ ≤ n * (powerOfTen k).value * 2 ^ 1000 :=
        mul_le_mul hhalf hbig (by norm_num) (by linarith)
  · calc (n : ℚ) * (powerOfTen k).value ≤ 10 ^ 16 * 10 ^ (k + 1) :=
          mul_le_mul hlt' hhigh hpos.le (by positivity)
      _ = 10 ^ (16 + (k + 1)) := (pow_add _ _ _).symm
      _ ≤ 2 ^ 1000 := ten_pow_le (by omega)

theorem rounded_quotient (hn : 0 < n) (hlt : n < 2 ^ 53) (hk : k ≤ 200) :
    Rounded false (n / (powerOfTen k).value) ((ofRatio .double false n 1).div (powerOfTen k)) := by
  obtain ⟨hfinite, hsign, hvalue⟩ := rounded_whole hn hlt
  have hpower := rounded_powerOfTen (k := k) (by omega)
  obtain ⟨hlow, hhigh⟩ := powerOfTen_bounds (k := k) (by omega)
  have hn' : (1 : ℚ) ≤ n := by exact_mod_cast hn
  have hlt' : (n : ℚ) ≤ 10 ^ 16 := by exact_mod_cast hlt.le.trans (by decide)
  have hpos : 0 < (powerOfTen k).value := by linarith
  have hrounded := rounded_div (k := 1000) hfinite hpower.isFinite (le_refl _) hpos
  rw [hvalue, hsign, hpower.negative_eq] at hrounded
  refine hrounded ?_ ?_
  · rw [div_mul_eq_mul_div, one_le_div hpos]
    have hle := hhigh.trans (ten_pow_le (k := k + 1) (by omega))
    have hbig : (0 : ℚ) ≤ 2 ^ 1000 := by positivity
    exact hle.trans (le_mul_of_one_le_left hbig hn')
  · have hle : (n : ℚ) / (powerOfTen k).value ≤ 10 ^ 17 := by
      rw [div_le_iff₀ hpos]
      linarith
    exact hle.trans (ten_pow_le (by omega))

end Single

/-- What the float for a decimal is: near the decimal, and the decimal itself if the power of ten is
small and 53 binary digits are enough. -/
structure Scaled (q : ℚ) (e : Int) (y : Double) : Prop where
  isFinite : y.IsFinite
  negative_eq : y.negative = false
  near : |y.value - q| ≤ q * slack
  exact : e.natAbs ≤ 22 → ∀ c j : Nat, c < 2 ^ 53 →
    q = c * 2 ^ j / 2 ^ BinaryFormat.double.unitBits → y.value = q

/-- The float for a decimal with at most 53 binary digits. -/
theorem scaledOnce_spec {n : Nat} {e : Int} (hn : 0 < n) (hlt : n < 2 ^ 53) (he : e.natAbs ≤ 200) :
    Scaled (n * 10 ^ e) e (scaledOnce n e) := by
  have hpower := rounded_powerOfTen (k := e.natAbs) (by omega)
  have hn' : (0 : ℚ) ≤ n := Nat.cast_nonneg n
  have hten : (0 : ℚ) < 10 ^ e.natAbs := by positivity
  rw [scaledOnce]
  by_cases hneg : e < 0
  · have hq : (n * 10 ^ e : ℚ) = n / 10 ^ e.natAbs := by
      have habs : e = -(e.natAbs : Int) := by omega
      rw [div_eq_mul_inv, ← zpow_natCast, ← zpow_neg, ← habs]
    have hdiv := rounded_quotient hn hlt he
    rw [if_pos hneg, hq]
    refine ⟨hdiv.isFinite, hdiv.negative_eq, abs_div_sub_le hn' hten hpower.near hdiv.near,
      fun hsmall c j hc hcj => ?_⟩
    have hexact := hdiv.exact c j hc
    rw [value_powerOfTen hsmall] at hexact
    exact hexact hcj
  · have hq : (n * 10 ^ e : ℚ) = n * 10 ^ e.natAbs := by
      have habs : e = (e.natAbs : Int) := by omega
      rw [← zpow_natCast, ← habs]
    have hmul := rounded_product hn hlt he
    rw [if_neg hneg, hq]
    refine ⟨hmul.isFinite, hmul.negative_eq, abs_mul_sub_le hn' hten.le hpower.near hmul.near,
      fun hsmall c j hc hcj => ?_⟩
    have hexact := hmul.exact c j hc
    rw [value_powerOfTen hsmall] at hexact
    exact hexact hcj

end VirtualTouchpad.Json
