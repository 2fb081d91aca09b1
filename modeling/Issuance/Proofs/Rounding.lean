import Issuance.Proofs.Double
import Mathlib.Tactic.FieldSimp
import Mathlib.Tactic.Linarith
import Mathlib.Tactic.NormNum

/-! The double nearest to a fraction depends on its value alone, and is exact where that is possible. -/

namespace Issuance.Double

/-- A fraction has fifty-three significant bits in units of a power of two. -/
def Fits (q : ℚ) (exponent : Int) : Prop := 2 ^ 52 ≤ q / 2 ^ exponent ∧ q / 2 ^ exponent < 2 ^ 53

/-- Units in which a fraction has too few bits lie above units in which it has enough. -/
theorem le_of_bits {q : ℚ} {low high : Int} (few : q / 2 ^ low < 2 ^ 53)
    (enough : 2 ^ 52 ≤ q / 2 ^ high) : high ≤ low := by
  by_contra above
  -- A step to the next power halves the count of units.
  obtain ⟨steps, rfl⟩ : ∃ steps : Nat, high = low + (steps + 1) :=
    ⟨(high - low - 1).toNat, by omega⟩
  have growth : (2 : ℚ) ≤ 2 ^ (steps + 1) := by
    have := one_le_pow₀ (by norm_num : (1 : ℚ) ≤ 2) (n := steps)
    rw [pow_succ]
    linarith
  have split : (2 : ℚ) ^ (low + ((steps : Int) + 1)) = 2 ^ low * 2 ^ (steps + 1) := by
    rw [zpow_add₀ two_ne_zero]
    norm_cast
  rw [split, ← div_div, le_div_iff₀ (by positivity)] at enough
  have : (2 : ℚ) ^ 52 * 2 ≤ 2 ^ 52 * 2 ^ (steps + 1) :=
    mul_le_mul_of_nonneg_left growth (by positivity)
  linarith

/-- There is one power of two at most in whose units a fraction has so many bits. -/
theorem Fits.unique {q : ℚ} {first second : Int} (fits : Fits q first) (other : Fits q second) :
    first = second :=
  le_antisymm (le_of_bits other.2 fits.1) (le_of_bits fits.2 other.1)

/-- Dividing by a power of two changes the value by that power. -/
theorem scaleDown_value (numerator : Nat) {denominator : Nat} (positive : 0 < denominator) (exponent : Int) :
    0 < (scaleDown numerator denominator exponent).2 ∧
      ((scaleDown numerator denominator exponent).1 : ℚ) /
        (scaleDown numerator denominator exponent).2 = numerator / denominator / 2 ^ exponent := by
  have : (denominator : ℚ) ≠ 0 := by positivity
  cases exponent with
  | ofNat shift =>
    simp only [scaleDown, Nat.shiftLeft_eq, Int.ofNat_eq_natCast, zpow_natCast]
    exact ⟨by positivity, by push_cast; rw [div_div]⟩
  | negSucc shift =>
    simp only [scaleDown, Nat.shiftLeft_eq, zpow_negSucc, div_inv_eq_mul]
    exact ⟨positive, by push_cast; ring⟩

/-- A quotient of whole numbers is below a bound where the fraction is. -/
theorem div_lt_iff (top bound : Nat) {bottom : Nat} (positive : 0 < bottom) :
    top / bottom < bound ↔ (top : ℚ) / bottom < bound := by
  rw [Nat.div_lt_iff_lt_mul positive, div_lt_iff₀ (by exact_mod_cast positive)]
  norm_cast

/-- The logarithm of a positive number bounds it by powers of two. -/
theorem log2_bounds {n : Nat} (positive : n ≠ 0) :
    (2 : ℚ) ^ (n.log2 : Int) ≤ n ∧ (n : ℚ) < 2 ^ ((n.log2 : Int) + 1) := by
  have low := Nat.log2_self_le positive
  have high := Nat.lt_log2_self (n := n)
  constructor
  · rw [zpow_natCast]
    exact_mod_cast low
  · rw [show ((n.log2 : Int) + 1) = ((n.log2 + 1 : Nat) : Int) by push_cast; rfl, zpow_natCast]
    exact_mod_cast high

/-- The logarithms put a positive fraction into a span of two powers of two. -/
theorem span_of_log2 {numerator denominator : Nat} {guess : Int} (above : numerator ≠ 0)
    (below : denominator ≠ 0)
    (guessed : guess = (numerator.log2 : Int) - denominator.log2 - 53) :
    2 ^ 52 ≤ (numerator : ℚ) / denominator / 2 ^ guess ∧
      (numerator : ℚ) / denominator / 2 ^ (guess + 1) < 2 ^ 53 := by
  obtain ⟨topLow, topHigh⟩ := log2_bounds above
  obtain ⟨bottomLow, bottomHigh⟩ := log2_bounds below
  have positive : (0 : ℚ) < denominator := by exact_mod_cast Nat.pos_of_ne_zero below
  constructor
  · -- The numerator is at its least, and the denominator at its most.
    rw [le_div_iff₀ (by positivity), le_div_iff₀ positive]
    calc (2 : ℚ) ^ 52 * 2 ^ guess * denominator
        ≤ 2 ^ 52 * 2 ^ guess * 2 ^ ((denominator.log2 : Int) + 1) :=
          mul_le_mul_of_nonneg_left bottomHigh.le (by positivity)
      _ = 2 ^ (numerator.log2 : Int) := by
          rw [show (2 : ℚ) ^ 52 = 2 ^ (52 : Int) by norm_cast, ← zpow_add₀ two_ne_zero,
            ← zpow_add₀ two_ne_zero]
          congr 1
          omega
      _ ≤ numerator := topLow
  · -- Now it is the other way around.
    rw [div_lt_iff₀ (by positivity), div_lt_iff₀ positive]
    calc (numerator : ℚ) < 2 ^ ((numerator.log2 : Int) + 1) := topHigh
      _ = 2 ^ 53 * 2 ^ (guess + 1) * 2 ^ (denominator.log2 : Int) := by
          rw [show (2 : ℚ) ^ 53 = 2 ^ (53 : Int) by norm_cast, ← zpow_add₀ two_ne_zero,
            ← zpow_add₀ two_ne_zero]
          congr 1
          omega
      _ ≤ 2 ^ 53 * 2 ^ (guess + 1) * denominator :=
          mul_le_mul_of_nonneg_left bottomLow (by positivity)

/-- The exponent of a positive fraction is the one it fits, unless that is below the least one. -/
theorem exponentOf_eq {numerator denominator : Nat} (above : numerator ≠ 0)
    (below : denominator ≠ 0) : ∃ exponent, Fits (numerator / denominator) exponent ∧
      exponentOf numerator denominator = max (-1074) exponent := by
  set guess : Int := (numerator.log2 : Int) - denominator.log2 - 53 with guess_eq
  obtain ⟨least, most⟩ := span_of_log2 above below guess_eq
  obtain ⟨bottom, value⟩ := scaleDown_value numerator (Nat.pos_of_ne_zero below) guess
  have narrow := div_lt_iff (scaleDown numerator denominator guess).1 (Nat.pow 2 53) bottom
  rw [value] at narrow
  unfold exponentOf
  -- The fraction itself tells which half of the span it is in.
  by_cases small : (scaleDown numerator denominator guess).1 /
      (scaleDown numerator denominator guess).2 < Nat.pow 2 53
  · refine ⟨guess, ⟨least, ?_⟩, ?_⟩
    · exact_mod_cast narrow.mp small
    · simp only [← guess_eq, if_pos small]
  · refine ⟨guess + 1, ⟨?_, most⟩, ?_⟩
    · have wide : (2 : ℚ) ^ 53 ≤ numerator / denominator / 2 ^ guess := by
        have := mt narrow.mpr small
        push_cast at this
        linarith
      rw [zpow_add_one₀ two_ne_zero, ← div_div, le_div_iff₀ two_pos]
      linarith
    · simp only [← guess_eq, if_neg small]

/-- Rounding a quotient is the same at every scale. -/
theorem roundQuotient_mul {factor top bottom : Nat} (positive : 0 < factor) :
    roundQuotient (factor * top) (factor * bottom) = roundQuotient top bottom := by
  have left : factor * bottom < 2 * (factor * (top % bottom)) ↔ bottom < 2 * (top % bottom) := by
    rw [Nat.mul_left_comm, Nat.mul_lt_mul_left positive]
  have right : 2 * (factor * (top % bottom)) < factor * bottom ↔ 2 * (top % bottom) < bottom := by
    rw [Nat.mul_left_comm, Nat.mul_lt_mul_left positive]
  simp only [roundQuotient, Nat.mul_div_mul_left _ _ positive, Nat.mul_mod_mul_left, left, right]

/-- Rounding a quotient depends on its value alone. -/
theorem roundQuotient_congr {top bottom above below : Nat} (positive : 0 < bottom)
    (other : 0 < below) (same : (top : ℚ) / bottom = above / below) :
    roundQuotient top bottom = roundQuotient above below := by
  rw [div_eq_div_iff (by positivity) (by positivity)] at same
  have cross : below * top = bottom * above := by
    rw [Nat.mul_comm, Nat.mul_comm bottom]
    exact_mod_cast same
  -- Both are brought to the product of the two denominators.
  rw [← roundQuotient_mul other, cross, Nat.mul_comm below bottom, roundQuotient_mul positive]

/-- A whole quotient is kept. -/
theorem roundQuotient_exact {top bottom whole : Nat} (positive : 0 < bottom)
    (exact : (top : ℚ) / bottom = whole) : roundQuotient top bottom = whole := by
  have single : (top : ℚ) / bottom = whole / (1 : Nat) := by rw [exact, Nat.cast_one, div_one]
  rw [roundQuotient_congr positive Nat.one_pos single]
  simp only [roundQuotient, Nat.div_one, Nat.mod_one]
  rfl

/-- The double nearest to a fraction depends on the value of the fraction alone. -/
theorem ofRatio_congr {numerator denominator above below : Nat} (positive : 0 < denominator)
    (other : 0 < below) (same : (numerator : ℚ) / denominator = above / below) (negative : Bool) :
    ofRatio negative numerator denominator = ofRatio negative above below := by
  have zero : numerator = 0 ↔ above = 0 := by
    have first : (denominator : ℚ) ≠ 0 := by positivity
    have second : (below : ℚ) ≠ 0 := by positivity
    rw [div_eq_div_iff first second] at same
    constructor <;> rintro rfl <;> simp_all
  unfold ofRatio
  by_cases none : numerator = 0
  · rw [if_pos (.inl none), if_pos (.inl (zero.mp none))]
  · rw [if_neg (by omega), if_neg (by omega)]
    -- The exponents agree, as there is only one that fits.
    obtain ⟨exponent, fits, found⟩ := exponentOf_eq none positive.ne'
    obtain ⟨exponent', fits', found'⟩ := exponentOf_eq (mt zero.mpr none) other.ne'
    rw [same] at fits
    have alike : exponentOf numerator denominator = exponentOf above below := by
      rw [found, found', fits.unique fits']
    obtain ⟨bottom, value⟩ := scaleDown_value numerator positive
      (exponentOf above below)
    obtain ⟨bottom', value'⟩ := scaleDown_value above other (exponentOf above below)
    simp only [alike]
    rw [roundQuotient_congr bottom bottom' (by rw [value, value', same])]

/-- The magnitude of a finite double is its significand in units of a power of two. -/
theorem ratio_value (significand : Nat) (exponent : Int) :
    0 < (ratio significand exponent).2 ∧
      ((ratio significand exponent).1 : ℚ) / (ratio significand exponent).2 =
        significand * 2 ^ exponent := by
  cases exponent with
  | ofNat shift => simp [ratio, Nat.shiftLeft_eq]
  | negSucc shift =>
    simp only [ratio, Nat.shiftLeft_eq, zpow_negSucc, one_mul]
    exact ⟨by positivity, by push_cast; rw [div_eq_mul_inv]⟩

/-- A significand and exponent that fit a double are stored as they are. -/
theorem store_of_canonical {significand : Nat} {exponent : Int}
    (canonical : Canonical significand exponent) (negative : Bool) :
    store negative significand exponent = .finite negative significand exponent canonical := by
  have narrow : significand ≠ Nat.pow 2 53 := Nat.ne_of_lt canonical.1
  simp only [store, if_neg narrow, dif_pos canonical]

/-- A whole number is not zero if it is worth, in some unit, what one is that is not zero. -/
theorem ne_zero_of_value {m n : Nat} {x y : ℚ} (some : n ≠ 0) (unit : y ≠ 0)
    (same : (m : ℚ) * x = n * y) : m ≠ 0 := by
  rintro rfl
  rw [Nat.cast_zero, zero_mul, eq_comm, mul_eq_zero] at same
  rcases same with none | none
  · exact some (by exact_mod_cast none)
  · exact unit none

/-- The exponent of a fraction that a double stands for is that of the double. -/
theorem exponentOf_exact {significand numerator denominator : Nat} {exponent : Int}
    (canonical : Canonical significand exponent) (above : numerator ≠ 0)
    (positive : 0 < denominator)
    (exact : (numerator : ℚ) / denominator = significand * 2 ^ exponent) :
    exponentOf numerator denominator = exponent := by
  obtain ⟨fitting, fits, found⟩ := exponentOf_eq above positive.ne'
  rw [exact] at fits
  rw [found]
  obtain ⟨bits, least, most, full⟩ := canonical
  have unit : (2 : ℚ) ^ exponent ≠ 0 := by positivity
  rcases full with full | lowest
  · -- With all its bits the significand fits at its own exponent.
    have own : Fits ((significand : ℚ) * 2 ^ exponent) exponent := by
      rw [Fits, mul_div_cancel_right₀ _ unit]
      exact ⟨by exact_mod_cast full, by exact_mod_cast bits⟩
    rw [own.unique fits] at least ⊢
    omega
  · -- At the least exponent it may have fewer, and then it would fit further down.
    have few : (significand : ℚ) * 2 ^ exponent / 2 ^ exponent < 2 ^ 53 := by
      rw [mul_div_cancel_right₀ _ unit]
      exact_mod_cast bits
    have below := le_of_bits few fits.1
    omega

/-- The double nearest to what a double stands for is that double. -/
theorem ofRatio_exact {significand numerator denominator : Nat} {exponent : Int}
    (canonical : Canonical significand exponent) (some : significand ≠ 0)
    (positive : 0 < denominator)
    (exact : (numerator : ℚ) / denominator = significand * 2 ^ exponent) (negative : Bool) :
    ofRatio negative numerator denominator = .finite negative significand exponent canonical := by
  have unit : (2 : ℚ) ^ exponent ≠ 0 := by positivity
  have above : numerator ≠ 0 := ne_zero_of_value some unit (by rw [← exact, div_eq_mul_inv])
  have kept := exponentOf_exact canonical above positive exact
  -- In units of that exponent the fraction is whole, and is kept as it is.
  obtain ⟨bottom, value⟩ := scaleDown_value numerator positive exponent
  have rounded : roundQuotient (scaleDown numerator denominator exponent).1
      (scaleDown numerator denominator exponent).2 = significand :=
    roundQuotient_exact bottom (by rw [value, exact, mul_div_cancel_right₀ _ unit])
  unfold ofRatio
  rw [if_neg (by omega)]
  simp only [kept, rounded]
  exact store_of_canonical _ negative

end Issuance.Double
