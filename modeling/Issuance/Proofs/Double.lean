import Mathlib.Algebra.Order.Field.Power
import Mathlib.Algebra.Order.Ring.Rat
import Mathlib.Tactic.Positivity
import Mathlib.Tactic.Ring
import Issuance.Number.Double

/-! Finite doubles stand for rational numbers, and are compared as those. -/

namespace Issuance

namespace Double

/-- The number a finite double stands for. -/
def value? : Double → Option ℚ
  | .finite negative significand exponent _ =>
    some ((if negative then -1 else 1) * significand * 2 ^ exponent)
  | _ => none

/-- Counting in units keeps the number, as long as the unit is no larger than the exponent's. -/
theorem inUnits_mul_unit {negative : Bool} {significand : Nat} {exponent unit : Int}
    (fine : unit ≤ exponent) :
    (inUnits negative significand exponent unit : ℚ) * 2 ^ unit =
      (if negative then -1 else 1) * significand * 2 ^ exponent := by
  -- The shift makes up for the distance between the two exponents.
  obtain ⟨shift, rfl⟩ : ∃ shift : Nat, exponent = unit + shift :=
    ⟨(exponent - unit).toNat, by omega⟩
  have distance : (unit + (shift : Int) - unit).toNat = shift := by omega
  have split : (2 : ℚ) ^ (unit + (shift : Int)) = 2 ^ unit * 2 ^ shift := by
    rw [zpow_add₀ two_ne_zero, zpow_natCast]
  unfold inUnits
  rw [distance, split, Nat.shiftLeft_eq]
  cases negative <;> push_cast <;> simp <;> ring

/-- Finite doubles are ordered as the numbers they stand for. -/
theorem le_iff_of_value {a b : Double} {x y : ℚ} (left : a.value? = some x)
    (right : b.value? = some y) : a.le b = true ↔ x ≤ y := by
  cases a with
  | infinite _ => cases left
  | notANumber => cases left
  | finite sign₁ significand₁ exponent₁ canonical₁ =>
    cases b with
    | infinite _ => cases right
    | notANumber => cases right
    | finite sign₂ significand₂ exponent₂ canonical₂ =>
      simp only [value?, Option.some.injEq] at left right
      have unit : (0 : ℚ) < 2 ^ min exponent₁ exponent₂ := by positivity
      -- Both sides are counted in the unit of the smaller exponent.
      rw [← left, ← right, ← inUnits_mul_unit (Int.min_le_left exponent₁ exponent₂),
        ← inUnits_mul_unit (Int.min_le_right exponent₁ exponent₂), mul_le_mul_iff_left₀ unit,
        Int.cast_le]
      simp only [le, compare, Bool.or_eq_true, beq_iff_eq, Option.some.injEq]
      rw [← Std.isLE_compare (α := Int)]
      cases Ord.compare (inUnits sign₁ significand₁ exponent₁ (min exponent₁ exponent₂))
        (inUnits sign₂ significand₂ exponent₂ (min exponent₁ exponent₂)) <;> simp

/-- A double counts as zero exactly if it stands for zero. -/
theorem isZero_iff_of_value {a : Double} {x : ℚ} (stands : a.value? = some x) :
    a.isZero = true ↔ x = 0 := by
  cases a with
  | infinite _ => cases stands
  | notANumber => cases stands
  | finite negative significand exponent canonical =>
    simp only [value?, Option.some.injEq] at stands
    -- The unit is not zero, so that it is the significand that has to be.
    have unit : (2 : ℚ) ^ exponent ≠ 0 := by positivity
    cases negative <;> simp [← stands, isZero, unit]

end Double

end Issuance
