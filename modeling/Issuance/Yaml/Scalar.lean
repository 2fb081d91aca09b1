import Issuance.Platform
import Issuance.Text.Blank
import Issuance.Time.Moment
import Issuance.Yaml.Tag
import Issuance.Yaml.Token

/-! What the text of a YAML scalar says, read as a number, a truth value or a moment. -/

namespace Issuance.Yaml

/-- A day of the calendar, or a moment of one. -/
inductive Timestamp where
  | date (day : Moment)
  | moment (moment : Moment)
  deriving DecidableEq, Repr

namespace Scalar

/-- The letter behind a zero that marks a base. -/
def baseMark (base : Nat) : Option Char :=
  if base = 2 then some 'b' else if base = 8 then some 'o' else if base = 16 then some 'x' else none

/-- Digits without the mark of their base. -/
def withoutMark (base : Nat) : List Char → List Char
  | '0' :: mark :: rest => if some mark.toLower = baseMark base then rest else '0' :: mark :: rest
  | cs => cs

/-- The number written by digits to a base; none without any, or if one is too great. -/
def magnitude? (base : Nat) (cs : List Char) : Option Nat :=
  if cs.isEmpty ∨ (base = 10 ∧ Platform.digitLimit < cs.length) then none
  else cs.foldlM (fun total c =>
    (Text.hexValue? c).bind fun digit => if digit < base then some (base * total + digit) else none) 0

/-- The whole number written to a base, with a sign, blanks around it, and perhaps the mark of the base. -/
def whole (base : Nat) (cs : List Char) : Outcome Int :=
  let (negative, cs) := Numeral.sign (Text.trimList Text.isBlank cs)
  match magnitude? base (withoutMark base cs) with
  | some magnitude => .ok (Numeral.signed negative magnitude)
  | none => .error .outOfRange

/-- A number with a point, an infinity or none, with blanks around it. -/
def double (cs : List Char) : Outcome Double :=
  match Numeral.double? (Text.trimList Text.isBlank cs) with
  | some x => .ok x
  | none => .error .outOfRange

/-- A text without its underscores. -/
def withoutBars (text : String) : List Char := text.toList.filter (· != '_')

/-- The whole number of a text without underscores and sign. -/
def wholeUnsigned : List Char → Outcome Int
  | [] => .error .noNumber
  | ['0'] => .ok 0
  | '0' :: 'b' :: digits => whole 2 digits
  | '0' :: 'x' :: digits => whole 16 digits
  -- The zero is kept, so that a mark of the base may still stand behind it.
  | '0' :: digits => whole 8 ('0' :: digits)
  | cs =>
    if cs.contains ':' then
      (Tag.pieces ':' cs).foldlM (fun total part => do return 60 * total + (← whole 10 part)) 0
    else whole 10 cs

/-- The whole number a text says. -/
def int (text : String) : Outcome Int := do
  let (negative, cs) := Numeral.sign (withoutBars text)
  let value ← wholeUnsigned cs
  return if negative then -value else value

/-- The value of the digits of a number to the base sixty, the last one first. -/
def sixtieths (base : Nat) (total : Double) : List Double → Double
  | [] => total
  -- Each term is rounded on its own, from the last digit on.
  | digit :: rest => sixtieths (60 * base) (total + digit * Double.ofInt base) rest

/-- The number with a point of a text without underscores and sign. -/
def doubleUnsigned (cs : List Char) : Outcome Double :=
  if cs = ".inf".toList then .ok (.infinite false)
  else if cs = ".nan".toList then .ok .notANumber
  else if cs.contains ':' then do
    return sixtieths 1 .zero (← (Tag.pieces ':' cs).mapM double).reverse
  else double cs

/-- The number with a point that a text says. -/
def float (text : String) : Outcome Double :=
  match (withoutBars text).map Char.toLower with
  | [] => .error .noNumber
  | cs => do
    let (negative, cs) := Numeral.sign cs
    let value ← doubleUnsigned cs
    return if negative then -value else value

/-- The truth value a text says. -/
def bool (text : String) : Outcome Bool :=
  let word := String.ofList (text.toList.map Char.toLower)
  if ["yes", "true", "on"].contains word then .ok true
  else if ["no", "false", "off"].contains word then .ok false
  else .error .noTruth

/-- A fraction of a second in microseconds, further digits being cut off. -/
def microseconds (digits : List Char) : Nat :=
  Numeral.value (digits ++ List.replicate (6 - digits.length) '0' |>.take 6)

/-- An offset of which the hours and the minutes are told. -/
def offsetOf (told : Bool × List Char × List Char) : Int :=
  let (west, hours, minutes) := told
  Moment.minutesEast (Numeral.signed west (60 * Numeral.value hours + Numeral.value minutes))

/-- A moment of the calendar; it is out of range if there is none. -/
def checkedMoment (moment : Moment) : Outcome Moment :=
  if moment.Valid then .ok moment else .error .outOfRange

/-- The date or moment a text says. A line end behind it does not count. -/
def timestamp (text : String) : Outcome Timestamp :=
  let cs := text.toList
  match MomentParts.ofText? (if cs.getLast? = some '\n' then cs.dropLast else cs) with
  | none => .error .noMoment
  | some parts => do
    let day : Moment := {
      year := Numeral.value parts.year
      month := Numeral.value parts.month
      day := Numeral.value parts.day }
    match parts.time with
    | none => return .date (← checkedMoment day)
    | some (hour, minute, second, fraction) =>
      return .moment (← checkedMoment { day with
        hour := Numeral.value hour
        minute := Numeral.value minute
        second := Numeral.value second
        microsecond := microseconds fraction
        offset := parts.offset.map offsetOf })

end Scalar

end Issuance.Yaml
