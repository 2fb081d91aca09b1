import Issuance.Number.Shortest
import Issuance.Proofs.Rounding

/-! The shortest decimal numeral of a double is read back as that double. -/

namespace Issuance.Double

/-- A positive number lies between two powers of ten by the count of its digits. -/
theorem digitCount_bounds {digits : Nat} (some : digits ≠ 0) :
    (10 : ℚ) ^ ((digitCount digits : Int) - 1) ≤ digits ∧ (digits : ℚ) < 10 ^ (digitCount digits : Int) := by
  have filled : 0 < digitCount digits := List.length_pos_of_ne_nil Nat.toDigits_ne_nil
  constructor
  · obtain ⟨fewer, count⟩ : ∃ fewer, digitCount digits = fewer + 1 :=
      ⟨digitCount digits - 1, by omega⟩
    -- With one digit less it would have been a smaller number.
    have least : 10 ^ fewer ≤ digits := by
      by_contra small
      have bound := (Nat.length_toDigits_le_iff (b := 10) (k := fewer) (n := digits) (by decide) ?_).mpr
        (by omega)
      · unfold digitCount at count
        omega
      · by_contra none
        have : fewer = 0 := by omega
        subst this
        omega
    rw [count]
    push_cast
    rw [add_sub_cancel_right, zpow_natCast]
    exact_mod_cast least
  · have most := (Nat.length_toDigits_le_iff (by decide : 1 < 10) filled).mp le_rfl
    rw [zpow_natCast]
    exact_mod_cast most

/-- The place of the first digit of a numeral is told by its value. -/
theorem magnitude_eq {first second : Nat} {low high : Int} (some : first ≠ 0) (other : second ≠ 0)
    (same : (first : ℚ) * 10 ^ low = second * 10 ^ high) :
    low + digitCount first = high + digitCount second := by
  -- Of two numerals with one value neither begins further up than the other.
  have apart : ∀ {m n : Nat} {e f : Int}, m ≠ 0 → n ≠ 0 → (m : ℚ) * 10 ^ e = n * 10 ^ f →
      e + digitCount m ≤ f + digitCount n := by
    intro m n e f some other same
    by_contra further
    have least := (digitCount_bounds some).1
    have most := (digitCount_bounds other).2
    have : (10 : ℚ) ^ (f + digitCount n) ≤ 10 ^ (e + digitCount m - 1) :=
      zpow_le_zpow_right₀ (by norm_num) (by omega)
    have : (n : ℚ) * 10 ^ f < m * 10 ^ e := calc
      (n : ℚ) * 10 ^ f < 10 ^ (digitCount n : Int) * 10 ^ f :=
        mul_lt_mul_of_pos_right most (by positivity)
      _ = 10 ^ (f + digitCount n) := by rw [← zpow_add₀ (by norm_num), add_comm]
      _ ≤ 10 ^ (e + digitCount m - 1) := this
      _ = 10 ^ ((digitCount m : Int) - 1) * 10 ^ e := by
        rw [← zpow_add₀ (by norm_num)]
        congr 1
        omega
      _ ≤ m * 10 ^ e := mul_le_mul_of_nonneg_right least (by positivity)
    linarith
  have := apart some other same
  have := apart other some same.symm
  omega

/-- A numeral that is neither far too great nor far too small is rounded as a fraction. -/
theorem ofDecimal_eq_ofRatio {digits : Nat} {exponent : Int} (some : digits ≠ 0)
    (low : -400 ≤ exponent + digitCount digits) (high : exponent + digitCount digits ≤ 400) :
    ∃ top bottom : Nat, 0 < bottom ∧ (top : ℚ) / bottom = digits * 10 ^ exponent ∧
      ∀ negative, ofDecimal negative digits exponent = ofRatio negative top bottom := by
  cases exponent with
  | ofNat power =>
    refine ⟨digits * Nat.pow 10 power, 1, Nat.one_pos, by simp, fun negative => ?_⟩
    simp only [ofDecimal, if_neg some, if_neg (by omega : ¬ 400 < Int.ofNat power + digitCount digits),
      if_neg (by omega : ¬ Int.ofNat power + digitCount digits < -400)]
  | negSucc power =>
    refine ⟨digits, 10 ^ (power + 1), by positivity, ?_, fun negative => ?_⟩
    · simp only [zpow_negSucc]
      push_cast
      rw [div_eq_mul_inv]
    · simp only [ofDecimal, if_neg some,
        if_neg (by omega : ¬ 400 < Int.negSucc power + digitCount digits),
        if_neg (by omega : ¬ Int.negSucc power + digitCount digits < -400)]
      rfl

/-- The double nearest to a numeral depends on the value of the numeral alone. -/
theorem ofDecimal_congr {first second : Nat} {low high : Int}
    (same : (first : ℚ) * 10 ^ low = second * 10 ^ high) (negative : Bool) :
    ofDecimal negative first low = ofDecimal negative second high := by
  have zero : first = 0 ↔ second = 0 := by
    have one : (10 : ℚ) ^ low ≠ 0 := by positivity
    have two : (10 : ℚ) ^ high ≠ 0 := by positivity
    constructor <;> rintro rfl <;> simp_all
  by_cases none : first = 0
  · simp only [ofDecimal, if_pos none, if_pos (zero.mp none)]
  · have some := mt zero.mpr none
    have place := magnitude_eq none some same
    by_cases great : 400 < low + digitCount first
    · simp only [ofDecimal, if_neg none, if_neg some, if_pos great, if_pos (place ▸ great)]
    by_cases small : low + digitCount first < -400
    · simp only [ofDecimal, if_neg none, if_neg some, if_neg great, if_neg (place ▸ great),
        if_pos small, if_pos (place ▸ small)]
    obtain ⟨top, bottom, positive, value, rounds⟩ :=
      @ofDecimal_eq_ofRatio first low none (by omega) (by omega)
    obtain ⟨top', bottom', positive', value', rounds'⟩ :=
      @ofDecimal_eq_ofRatio second high some (by omega) (by omega)
    rw [rounds, rounds', ofRatio_congr positive positive' (by rw [value, value', same])]

/-- The powers of two that doubles reach lie within powers of ten that are looked at. -/
theorem two_pow_le : (2 : ℚ) ^ 1074 ≤ 10 ^ 400 := by
  have whole : 2 ^ 1074 ≤ 10 ^ 400 := by decide +kernel
  exact_mod_cast whole

/-- What a double stands for is neither far too great nor far too small. -/
theorem value_bounds {significand : Nat} {exponent : Int}
    (canonical : Canonical significand exponent) (filled : significand ≠ 0) :
    (10 : ℚ) ^ (-400 : Int) ≤ significand * 2 ^ exponent ∧
      (significand : ℚ) * 2 ^ exponent < 10 ^ (400 : Int) := by
  obtain ⟨bits, least, most, _⟩ := canonical
  constructor
  · calc (10 : ℚ) ^ (-400 : Int) ≤ 2 ^ (-1074 : Int) := by
          rw [zpow_neg, zpow_neg]
          exact inv_anti₀ (by positivity) two_pow_le
      _ ≤ 2 ^ exponent := zpow_le_zpow_right₀ (by norm_num) least
      _ ≤ significand * 2 ^ exponent :=
          le_mul_of_one_le_left (by positivity) (by exact_mod_cast Nat.pos_of_ne_zero filled)
  · calc (significand : ℚ) * 2 ^ exponent < 2 ^ 53 * 2 ^ exponent :=
          mul_lt_mul_of_pos_right (by exact_mod_cast bits) (by positivity)
      _ ≤ 2 ^ 53 * 2 ^ (971 : Int) :=
          mul_le_mul_of_nonneg_left (zpow_le_zpow_right₀ (by norm_num) most) (by positivity)
      _ = 2 ^ 1024 := by
          rw [← zpow_natCast, ← zpow_add₀ two_ne_zero]
          rfl
      _ ≤ 2 ^ 1074 := pow_le_pow_right₀ (by norm_num) (by decide)
      _ ≤ 10 ^ (400 : Int) := two_pow_le

/-- A numeral with the value of a double has its first digit within the places that are looked at. -/
theorem magnitude_of_canonical {digits significand : Nat} {power exponent : Int}
    (some : digits ≠ 0) (canonical : Canonical significand exponent)
    (same : (digits : ℚ) * 10 ^ power = significand * 2 ^ exponent) :
    -400 ≤ power + digitCount digits ∧ power + digitCount digits ≤ 400 := by
  obtain ⟨low, high⟩ := digitCount_bounds some
  have ten : (0 : ℚ) < 10 ^ power := by positivity
  obtain ⟨above, below⟩ := value_bounds canonical (ne_zero_of_value some ten.ne' same.symm)
  rw [← same] at above below
  -- The digits of the numeral lie between the same powers of ten.
  have upper : (10 : ℚ) ^ (-400 : Int) < 10 ^ (power + digitCount digits) := by
    rw [add_comm, zpow_add₀ (by norm_num)]
    exact lt_of_le_of_lt above (mul_lt_mul_of_pos_right high ten)
  have lower : (10 : ℚ) ^ (power + digitCount digits - 1) < 10 ^ (400 : Int) := by
    rw [show power + (digitCount digits : Int) - 1 = digitCount digits - 1 + power by omega,
      zpow_add₀ (by norm_num)]
    exact lt_of_le_of_lt (mul_le_mul_of_nonneg_right low ten.le) below
  have first := (zpow_lt_zpow_iff_right₀ (by norm_num : (1 : ℚ) < 10)).mp upper
  have last := (zpow_lt_zpow_iff_right₀ (by norm_num : (1 : ℚ) < 10)).mp lower
  omega

/-- A numeral with the value of a double is read as that double. -/
theorem ofDecimal_exact {digits significand : Nat} {power exponent : Int}
    (canonical : Canonical significand exponent) (filled : significand ≠ 0)
    (same : (digits : ℚ) * 10 ^ power = significand * 2 ^ exponent) (negative : Bool) :
    ofDecimal negative digits power = .finite negative significand exponent canonical := by
  have some : digits ≠ 0 := ne_zero_of_value filled (by positivity) same
  obtain ⟨low, high⟩ := magnitude_of_canonical some canonical same
  obtain ⟨top, bottom, positive, value, rounds⟩ := ofDecimal_eq_ofRatio some low high
  rw [rounds, ofRatio_exact canonical filled positive (by rw [value, same])]

/-- All digits of a fraction over a power of two have the value of the fraction. -/
theorem exactDecimal_value (significand : Nat) (exponent : Int) :
    ((exactDecimal (ratio significand exponent).1 (ratio significand exponent).2).digits : ℚ) *
      10 ^ (exactDecimal (ratio significand exponent).1 (ratio significand exponent).2).exponent =
        significand * 2 ^ exponent := by
  rw [← (ratio_value significand exponent).2]
  have halves : ∃ places, (ratio significand exponent).2 = 2 ^ places := by
    cases exponent with
    | ofNat shift => exact ⟨0, rfl⟩
    | negSucc shift => exact ⟨shift + 1, by simp [ratio, Nat.shiftLeft_eq]⟩
  obtain ⟨places, power⟩ := halves
  simp only [exactDecimal, power, Nat.log2_two_pow, zpow_neg, zpow_natCast, Nat.pow_eq]
  -- Ten is two times five, and the fives are in the digits.
  push_cast
  rw [show (10 : ℚ) = 5 * 2 by norm_num, mul_pow]
  field_simp

/-- What is returned of two candidates has passed the test. -/
theorem test_of_either {test : Decimal → Bool} {first second numeral : Decimal}
    (found : (if test first then some first else if test second then some second else none) =
      some numeral) : test numeral = true := by
  split at found
  · next passed =>
    cases found
    exact passed
  · split at found
    · next passed =>
      cases found
      exact passed
    · cases found

/-- What is nearest on a grid is read back, or it would not have been taken. -/
theorem ofDecimal_of_nearestOnGrid {value : Double} {numerator denominator : Nat} {power : Int}
    {numeral : Decimal} (found : nearestOnGrid value numerator denominator power = some numeral) :
    ofDecimal false numeral.digits numeral.exponent = value := by
  have tested := @test_of_either
    fun numeral => decide (ofDecimal false numeral.digits numeral.exponent = value)
  unfold nearestOnGrid at found
  simp only at found
  -- The order in which the neighbours are tried does not matter here.
  split at found <;> exact of_decide_eq_true (tested found)

/-- The shortest numeral of a double is read back as that double. -/
theorem ofDecimal_shortestDecimal {significand : Nat} {exponent : Int}
    (canonical : Canonical significand exponent) (filled : significand ≠ 0) :
    ofDecimal false
      (shortestDecimal (.finite false significand exponent canonical) (ratio significand exponent).1
        (ratio significand exponent).2).digits
      (shortestDecimal (.finite false significand exponent canonical) (ratio significand exponent).1
        (ratio significand exponent).2).exponent = .finite false significand exponent canonical := by
  unfold shortestDecimal
  simp only
  -- A hit on one of the grids has passed the test; all the digits would be read back as well.
  cases hit : List.findSome? _ _ with
  | some numeral =>
    obtain ⟨power, _, found⟩ := List.exists_of_findSome?_eq_some hit
    exact ofDecimal_of_nearestOnGrid found
  | none => exact ofDecimal_exact canonical filled (exactDecimal_value significand exponent) false

end Issuance.Double
