import Issuance.Number.Numeral
import Issuance.Platform
import Mathlib.Data.List.Basic
import Mathlib.Data.List.Induction
import Mathlib.Tactic.IntervalCases
import Mathlib.Tactic.Ring

/-! Decimal numerals that are written are read back: their digits, and the number they stand for. -/

namespace Issuance

/-- A number is too long to be written exactly if it has more than 4300 decimal digits. -/
theorem Platform.isTooLong_iff {n : Int} :
    isTooLong n = true ↔ 4300 < (Nat.toDigits 10 n.natAbs).length := by
  -- The limit is a variable here, for the power of ten is not to be computed.
  have digits : ∀ limit, 0 < limit → (decide (Nat.pow 10 limit ≤ n.natAbs) = true ↔
      limit < (Nat.toDigits 10 n.natAbs).length) := by
    intro limit positive
    rw [decide_eq_true_iff, ← Nat.not_le, Nat.length_toDigits_le_iff (by decide) positive, Nat.not_lt]
    rfl
  exact digits digitLimit (by decide)

namespace Numeral

/-- One more digit behind a numeral is worth ten times less than all before it. -/
theorem value_append_singleton (cs : List Char) (c : Char) :
    value (cs ++ [c]) = 10 * value cs + (c.toNat - '0'.toNat) := by
  simp [value, List.foldl_append]

/-- The digits in front count by the places behind them. -/
theorem value_append (front back : List Char) :
    value (front ++ back) = 10 ^ back.length * value front + value back := by
  induction back using List.reverseRecOn with
  | nil => simp [value]
  | append_singleton back c ih =>
    rw [← List.append_assoc, value_append_singleton, value_append_singleton, ih, List.length_append,
      List.length_singleton, Nat.pow_succ]
    ring

/-- Zeros are worth nothing. -/
theorem value_replicate (count : Nat) : value (List.replicate count '0') = 0 := by
  induction count with
  | zero => rfl
  | succ count ih => rw [List.replicate_succ', value_append_singleton, ih]; rfl

/-- Zeros in front are worth nothing. -/
theorem value_replicate_append (count : Nat) (cs : List Char) :
    value (List.replicate count '0' ++ cs) = value cs := by
  rw [value_append, value_replicate, Nat.mul_zero, Nat.zero_add]

/-- The decimal digits of a number are worth that number. -/
theorem value_toDigits (n : Nat) : value (Nat.toDigits 10 n) = n := by
  -- The induction is on the number without its last digit.
  induction n using Nat.strong_induction_on with
  | h n ih =>
    by_cases single : n < 10
    · rw [Nat.toDigits_of_lt_base single]
      show 10 * 0 + (n.digitChar.toNat - 48) = n
      rw [Nat.toNat_digitChar_sub_48_of_lt_ten single]
      omega
    · have last := Nat.toNat_digitChar_sub_48_of_lt_ten (Nat.mod_lt n (by omega : 0 < 10))
      rw [Nat.toDigits_of_base_le (by omega) (by omega), value_append_singleton, ih _ (by omega)]
      show 10 * (n / 10) + ((n % 10).digitChar.toNat - 48) = n
      rw [last]
      omega

/-- All characters of a decimal numeral are digits. -/
theorem isDigit_toDigits {n : Nat} {c : Char} (member : c ∈ Nat.toDigits 10 n) : c.isDigit = true :=
  Nat.isDigit_of_mem_toDigits (by decide) (by decide) member

theorem isDigits_toDigits (n : Nat) : isDigits (Nat.toDigits 10 n) = true := by
  simp only [isDigits, Bool.and_eq_true, Bool.not_eq_true', List.isEmpty_eq_false_iff,
    List.all_eq_true]
  exact ⟨Nat.toDigits_ne_nil, fun c member => isDigit_toDigits member⟩

/-- A number other than zero does not begin with a zero. -/
theorem head?_toDigits {n : Nat} (some : n ≠ 0) : (Nat.toDigits 10 n).head? ≠ .some '0' := by
  induction n using Nat.strong_induction_on with
  | h n ih =>
    by_cases single : n < 10
    · rw [Nat.toDigits_of_lt_base single]
      simpa using some
    · -- The digits in front are those of the number without its last one.
      rw [Nat.toDigits_of_base_le (by omega) (by omega),
        List.head?_append_of_ne_nil _ Nat.toDigits_ne_nil]
      exact ih (n / 10) (by omega) (by omega)

/-- The decimal digits are ten characters. -/
theorem mem_of_isDigit {c : Char} (digit : c.isDigit = true) :
    c ∈ ['0', '1', '2', '3', '4', '5', '6', '7', '8', '9'] := by
  have span : 48 ≤ c.toNat ∧ c.toNat ≤ 57 := by
    simpa [Char.isDigit, UInt32.le_iff_toNat_le] using digit
  obtain ⟨low, high⟩ := span
  rw [← Char.ofNat_toNat c]
  -- The codes of the digits follow each other.
  interval_cases c.toNat <;> decide

/-- Digits before something that does not go on with one are all that is taken for the numeral. -/
theorem digits_append {cs rest : List Char} (digits_cs : ∀ c ∈ cs, c.isDigit = true)
    (stops : ∀ c ∈ rest.head?, c.isDigit = false) : digits (cs ++ rest) = (cs, rest) := by
  unfold digits
  rw [List.takeWhile_append_of_pos digits_cs, List.dropWhile_append_of_pos digits_cs]
  cases rest with
  | nil => simp
  | cons c rest =>
    have stop : c.isDigit = false := stops c rfl
    simp [stop]

end Numeral

end Issuance
