import Issuance.Number.Double

/-! The shortest decimal text of a double: the fewest digits that read back, the nearest of those. -/

namespace Issuance.Double

/-- A decimal numeral `digits · 10 ^ exponent`. -/
structure Decimal where
  digits : Nat
  exponent : Int
  deriving DecidableEq, Repr

/-- The position of the first decimal digit of a positive fraction: the power of ten it stands for. -/
def leadingPower (numerator denominator : Nat) : Int :=
  -- The counts of digits give the power up to one, and a product in whole numbers decides.
  let guess : Int := (digitCount numerator : Int) - digitCount denominator
  let reached : Bool := match guess with
    | .ofNat power => denominator * Nat.pow 10 power ≤ numerator
    | .negSucc power => denominator ≤ numerator * Nat.pow 10 (power + 1)
  if reached then guess else guess - 1

/-- A fraction counted in units of a power of ten, again as a fraction. -/
def inTens (numerator denominator : Nat) (exponent : Int) : Nat × Nat :=
  match exponent with
  | .ofNat power => (numerator, denominator * Nat.pow 10 power)
  | .negSucc power => (numerator * Nat.pow 10 (power + 1), denominator)

/-- Of the two numerals around a fraction on one decimal grid, the nearest that reads back as the double. -/
def nearestOnGrid (value : Double) (numerator denominator : Nat) (exponent : Int) : Option Decimal :=
  let (top, bottom) := inTens numerator denominator exponent
  let below : Decimal := ⟨top / bottom, exponent⟩
  let above : Decimal := ⟨top / bottom + 1, exponent⟩
  let readsBack (numeral : Decimal) := decide (ofDecimal false numeral.digits numeral.exponent = value)
  let twice := 2 * (top % bottom)
  -- The nearer neighbour is tried first; a tie goes to the even one.
  let belowFirst := twice < bottom ∨ (twice = bottom ∧ below.digits % 2 = 0)
  let (first, second) := if belowFirst then (below, above) else (above, below)
  if readsBack first then some first else if readsBack second then some second else none

/-- All the digits of a fraction whose denominator is a power of two. -/
def exactDecimal (numerator denominator : Nat) : Decimal :=
  let places := denominator.log2
  ⟨numerator * Nat.pow 5 places, -(places : Int)⟩

/-- The numeral with the fewest digits that reads back as a positive finite double. -/
def shortestDecimal (value : Double) (numerator denominator : Nat) : Decimal :=
  let power := leadingPower numerator denominator
  -- Coarse grids come first, so that the first hit has the fewest digits; seventeen always suffice.
  let grids := (List.range 17).map fun (count : Nat) => power - (count : Int)
  (grids.findSome? (nearestOnGrid value numerator denominator)).getD
    (exactDecimal numerator denominator)

/-- The digits of a numeral without zeros at its end, and the power of ten the first one stands for. -/
def significantDigits (numeral : Decimal) : List Char × Int :=
  let digits := Nat.toDigits 10 numeral.digits
  -- Zeros at the end say nothing, but they count for the place of the first digit.
  let kept := (digits.reverse.dropWhile (· == '0')).reverse
  (kept, numeral.exponent + digits.length - 1)

/-- An exponent with its sign and at least two digits. -/
def exponentText (power : Int) : List Char :=
  let digits := Nat.toDigits 10 power.natAbs
  (if power < 0 then '-' else '+') :: (if digits.length < 2 then '0' :: digits else digits)

/-- Digits with a point after the first one, followed by the exponent. -/
def scientificText (digits : List Char) (power : Int) : List Char :=
  match digits with
  | [] => ['0']
  | [digit] => digit :: 'e' :: exponentText power
  | digit :: rest => digit :: '.' :: rest ++ 'e' :: exponentText power

/-- Digits written out in place; the fraction is empty if none of them falls behind the point. -/
def positionalParts (digits : List Char) (power : Int) : List Char × List Char :=
  match power with
  | .ofNat places =>
    let whole := digits.take (places + 1)
    (whole ++ List.replicate (places + 1 - whole.length) '0', digits.drop (places + 1))
  | .negSucc places => (['0'], List.replicate places '0' ++ digits)

/-- The text of a double: positional from `1e-4` up to `1e16`, always with a point or an exponent. -/
def text : Double → String
  | .notANumber => "nan"
  | .infinite negative => if negative then "-inf" else "inf"
  | value@(.finite negative significand exponent canonical) =>
    let sign := if negative then ['-'] else []
    if significand = 0 then String.ofList (sign ++ ['0', '.', '0'])
    else
      let (numerator, denominator) := ratio significand exponent
      let magnitude := if negative then .finite false significand exponent canonical else value
      let (digits, power) := significantDigits (shortestDecimal magnitude numerator denominator)
      if -4 ≤ power ∧ power < 16 then
        let (whole, fraction) := positionalParts digits power
        String.ofList (sign ++ whole ++ '.' :: (if fraction.isEmpty then ['0'] else fraction))
      else String.ofList (sign ++ scientificText digits power)

end Issuance.Double
