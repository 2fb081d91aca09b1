import Issuance.Number.Shortest

/-! Doubles written with at most six significant digits, for messages. -/

namespace Issuance.Double

/-- A positive fraction rounded to a number of significant digits. -/
def roundToDigits (count : Nat) (numerator denominator : Nat) : Decimal :=
  let exponent := leadingPower numerator denominator - (count : Int) + 1
  let (top, bottom) := inTens numerator denominator exponent
  ⟨roundQuotient top bottom, exponent⟩

/-- The text with six significant digits and no zeros at the end of a fraction; positional from `1e-4` below `1e6`. -/
def generalText : Double → String
  | .notANumber => "nan"
  | .infinite negative => if negative then "-inf" else "inf"
  | .finite negative significand exponent _ =>
    let sign := if negative then ['-'] else []
    if significand = 0 then String.ofList (sign ++ ['0'])
    else
      let (numerator, denominator) := ratio significand exponent
      let (digits, power) := significantDigits (roundToDigits 6 numerator denominator)
      -- The power is that of the rounded number, which may have one digit more than the exact one.
      if -4 ≤ power ∧ power < 6 then
        let (whole, fraction) := positionalParts digits power
        String.ofList (sign ++ whole ++ (if fraction.isEmpty then [] else '.' :: fraction))
      else String.ofList (sign ++ scientificText digits power)

end Issuance.Double
