/-! Double-precision binary numbers as exact values, with the rounding that arithmetic on them does. -/

namespace Issuance

/-- A significand and exponent in the one form a finite double is stored in. -/
def Double.Canonical (significand : Nat) (exponent : Int) : Prop :=
  significand < Nat.pow 2 53 ∧ -1074 ≤ exponent ∧ exponent ≤ 971 ∧
    (Nat.pow 2 52 ≤ significand ∨ exponent = -1074)

instance (significand : Nat) (exponent : Int) :
    Decidable (Double.Canonical significand exponent) := by
  unfold Double.Canonical; infer_instance

/-- A double: a finite value `± significand · 2 ^ exponent`, an infinity, or not a number. -/
inductive Double where
  | finite (negative : Bool) (significand : Nat) (exponent : Int)
      (canonical : Double.Canonical significand exponent)
  | infinite (negative : Bool)
  | notANumber
  deriving DecidableEq

namespace Double

/-- Zero with the given sign. -/
def zeroSigned (negative : Bool) : Double := .finite negative 0 (-1074) (by decide)

/-- The double zero. -/
def zero : Double := zeroSigned false

instance : Inhabited Double := ⟨zero⟩

/-- The quotient of two natural numbers rounded to the nearest one, a tie going to the even one. -/
def roundQuotient (numerator denominator : Nat) : Nat :=
  let quotient := numerator / denominator
  let twice := 2 * (numerator % denominator)
  if twice < denominator then quotient
  else if denominator < twice then quotient + 1
  -- A tie adds one to an odd quotient only.
  else quotient + quotient % 2

/-- A fraction divided by a power of two, again as a fraction. -/
def scaleDown (numerator denominator : Nat) (exponent : Int) : Nat × Nat :=
  match exponent with
  | .ofNat shift => (numerator, denominator <<< shift)
  | .negSucc shift => (numerator <<< (shift + 1), denominator)

/-- Stores a significand that may be one step too wide; beyond the largest exponent it is infinite. -/
def store (negative : Bool) (significand : Nat) (exponent : Int) : Double :=
  let (significand, exponent) :=
    -- Rounding up can only overshoot to the power of two itself, which one exponent further on is exact.
    if significand = Nat.pow 2 53 then (Nat.pow 2 52, exponent + 1) else (significand, exponent)
  if canonical : Canonical significand exponent then
    .finite negative significand exponent canonical
  else .infinite negative

/-- The exponent at which a positive fraction has fifty-three significant bits, at least -1074. -/
def exponentOf (numerator denominator : Nat) : Int :=
  -- The logarithms give the exponent up to one; a quotient that is too wide moves it on.
  let guess : Int := (numerator.log2 : Int) - denominator.log2 - 53
  let (top, bottom) := scaleDown numerator denominator guess
  max (-1074) (if top / bottom < Nat.pow 2 53 then guess else guess + 1)

/-- The double nearest to a fraction, a tie going to the even significand. -/
def ofRatio (negative : Bool) (numerator denominator : Nat) : Double :=
  if numerator = 0 ∨ denominator = 0 then zeroSigned negative
  else
    let exponent := exponentOf numerator denominator
    let (top, bottom) := scaleDown numerator denominator exponent
    store negative (roundQuotient top bottom) exponent

/-- The double nearest to an integer. -/
def ofInt (value : Int) : Double := ofRatio (value < 0) value.natAbs 1

/-- The magnitude of a finite double as a fraction. -/
def ratio (significand : Nat) (exponent : Int) : Nat × Nat :=
  match exponent with
  | .ofNat shift => (significand <<< shift, 1)
  | .negSucc shift => (significand, 1 <<< (shift + 1))

/-- The decimal digits of a natural number, as their count. -/
def digitCount (value : Nat) : Nat := (Nat.toDigits 10 value).length

/-- The double nearest to `± digits · 10 ^ exponent`. -/
def ofDecimal (negative : Bool) (digits : Nat) (exponent : Int) : Double :=
  if digits = 0 then zeroSigned negative
  else
    -- Far outside the range the answer is known without building the power of ten.
    let magnitude := exponent + digitCount digits
    if 400 < magnitude then .infinite negative
    else if magnitude < -400 then zeroSigned negative
    else match exponent with
      | .ofNat power => ofRatio negative (digits * Nat.pow 10 power) 1
      | .negSucc power => ofRatio negative digits (Nat.pow 10 (power + 1))

/-- The opposite number. -/
def neg : Double → Double
  | .finite negative significand exponent canonical => .finite (!negative) significand exponent canonical
  | .infinite negative => .infinite (!negative)
  | .notANumber => .notANumber

instance : Neg Double := ⟨neg⟩

/-- The signed significand of a finite double counted in units of `2 ^ unit`, for a unit not above its exponent. -/
def inUnits (negative : Bool) (significand : Nat) (exponent unit : Int) : Int :=
  let magnitude : Int := significand <<< (exponent - unit).toNat
  if negative then -magnitude else magnitude

/-- The sum, rounded once. -/
def add : Double → Double → Double
  | .notANumber, _ => .notANumber
  | _, .notANumber => .notANumber
  | .infinite a, .infinite b => if a = b then .infinite a else .notANumber
  | .infinite a, .finite .. => .infinite a
  | .finite .., .infinite b => .infinite b
  | .finite sign₁ significand₁ exponent₁ _, .finite sign₂ significand₂ exponent₂ _ =>
    -- In units of the smaller exponent both numbers are whole, so that the sum is exact before it is rounded.
    let unit := min exponent₁ exponent₂
    let total := inUnits sign₁ significand₁ exponent₁ unit + inUnits sign₂ significand₂ exponent₂ unit
    if total = 0 then zeroSigned (sign₁ && sign₂)
    else
      let (top, bottom) := ratio total.natAbs unit
      ofRatio (total < 0) top bottom

instance : Add Double := ⟨add⟩
instance : Sub Double := ⟨fun a b => add a (neg b)⟩

/-- The product, rounded once. -/
def mul : Double → Double → Double
  | .notANumber, _ => .notANumber
  | _, .notANumber => .notANumber
  | .infinite a, .infinite b => .infinite (a != b)
  | .infinite a, .finite b significand _ _ =>
    if significand = 0 then .notANumber else .infinite (a != b)
  | .finite a significand _ _, .infinite b =>
    if significand = 0 then .notANumber else .infinite (a != b)
  | .finite sign₁ significand₁ exponent₁ _, .finite sign₂ significand₂ exponent₂ _ =>
    let (top, bottom) := ratio (significand₁ * significand₂) (exponent₁ + exponent₂)
    ofRatio (sign₁ != sign₂) top bottom

instance : Mul Double := ⟨mul⟩

/-- The order of two numbers; none if one of them is not a number. -/
def compare : Double → Double → Option Ordering
  | .notANumber, _ => none
  | _, .notANumber => none
  | .infinite a, .infinite b => some (Ord.compare b a)
  | .infinite a, .finite .. => some (if a then .lt else .gt)
  | .finite .., .infinite b => some (if b then .gt else .lt)
  | .finite sign₁ significand₁ exponent₁ _, .finite sign₂ significand₂ exponent₂ _ =>
    -- In units of the smaller exponent both numbers are whole.
    let unit := min exponent₁ exponent₂
    some (Ord.compare (inUnits sign₁ significand₁ exponent₁ unit)
      (inUnits sign₂ significand₂ exponent₂ unit))

/-- Whether the first number is the smaller one. -/
def lt (a b : Double) : Bool := a.compare b == some .lt

/-- Whether the first number is the smaller one or they are equal. -/
def le (a b : Double) : Bool := a.compare b == some .lt || a.compare b == some .eq

/-- Whether the number is zero, of either sign. -/
def isZero : Double → Bool
  | .finite _ significand _ _ => significand == 0
  | _ => false

/-- Whether the number is finite. -/
def isFinite : Double → Bool
  | .finite .. => true
  | _ => false

/-- The largest integer not above a finite number. -/
def floor? : Double → Option Int
  | .finite negative significand exponent _ =>
    let (top, bottom) := ratio significand exponent
    some (Int.fdiv (if negative then -(top : Int) else top) bottom)
  | _ => none

/-- The integer a number is equal to, if there is one. -/
def toInt? : Double → Option Int
  | .finite negative significand exponent _ =>
    let (top, bottom) := ratio significand exponent
    if top % bottom = 0 then
      let magnitude : Int := top / bottom
      some (if negative then -magnitude else magnitude)
    else none
  | _ => none

end Double

end Issuance
