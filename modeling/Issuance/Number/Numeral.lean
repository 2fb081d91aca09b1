import Issuance.Number.Double

/-! Decimal numerals in texts: runs of digits, and numbers with a fraction and an exponent. -/

namespace Issuance.Numeral

/-- The number written by a run of decimal digits. -/
def value (digits : List Char) : Nat :=
  digits.foldl (fun total digit => 10 * total + (digit.toNat - '0'.toNat)) 0

/-- The decimal digits a text begins with, and what follows them. -/
def digits (cs : List Char) : List Char × List Char := (cs.takeWhile Char.isDigit, cs.dropWhile Char.isDigit)

/-- Whether a text is one or more digits and nothing else. -/
def isDigits (cs : List Char) : Bool := !cs.isEmpty && cs.all Char.isDigit

/-- A sign a text may begin with, as whether it is a minus, and what follows it. -/
def sign : List Char → Bool × List Char
  | '-' :: rest => (true, rest)
  | '+' :: rest => (false, rest)
  | cs => (false, cs)

/-- A signed whole number. -/
def signed (negative : Bool) (magnitude : Nat) : Int := if negative then -magnitude else magnitude

/-- The double written by a whole part, a fraction, and a power of ten. -/
def double (negative : Bool) (whole fraction : List Char) (power : Int) : Double :=
  -- The point is moved behind all digits, so that only one rounding is left.
  Double.ofDecimal negative (value (whole ++ fraction)) (power - fraction.length)

/-- The power of ten written behind a numeral: nothing, or a mark, a sign and digits. -/
def power? : List Char → Option Int
  | [] => some 0
  | mark :: rest =>
    if mark = 'e' ∨ mark = 'E' then
      let (negative, cs) := sign rest
      if isDigits cs then some (signed negative (value cs)) else none
    else none

/-- The double a text without a sign spells: a numeral with digits on at least one side of its point, or a name. -/
def unsigned? (negative : Bool) (cs : List Char) : Option Double :=
  let name := String.ofList (cs.map Char.toLower)
  if name = "inf" ∨ name = "infinity" then some (.infinite negative)
  else if name = "nan" then some .notANumber
  else
    let (whole, afterWhole) := digits cs
    let (fraction, rest) := match afterWhole with
      | '.' :: more => digits more
      | more => ([], more)
    if whole.isEmpty && fraction.isEmpty then none
    else (power? rest).map (double negative whole fraction)

/-- The double a text spells. -/
def double? (cs : List Char) : Option Double :=
  let (negative, rest) := sign cs
  unsigned? negative rest

/-- A text without its underscores, if none stands at an end or beside another. -/
def withoutUnderscores? (cs : List Char) : Option (List Char) :=
  if cs.head? = some '_' ∨ cs.getLast? = some '_' ∨ (cs.zip cs.tail).contains ('_', '_') then none
  else some (cs.filter (· != '_'))

end Issuance.Numeral
