/-! Hexadecimal digits: numbers at a fixed width, and bytes in pairs. -/

namespace Issuance.Text

/-- The sixteen digits in lower case. -/
def hexDigit (value : Nat) : Char := (Nat.digitChar value)

/-- The last `width` hexadecimal digits of a number, in lower case. -/
def hexFixed : Nat → Nat → List Char
  | 0, _ => []
  -- The last digit is split off, so that leading zeros come out of the width alone.
  | width + 1, value => hexFixed width (value / 16) ++ [hexDigit (value % 16)]

/-- The value of a hexadecimal digit in either case. -/
def hexValue? (c : Char) : Option Nat :=
  if '0' ≤ c ∧ c ≤ '9' then some (c.toNat - '0'.toNat)
  else if 'a' ≤ c ∧ c ≤ 'f' then some (c.toNat - 'a'.toNat + 10)
  else if 'A' ≤ c ∧ c ≤ 'F' then some (c.toNat - 'A'.toNat + 10)
  else none

/-- A digit in upper case is read as its value. -/
theorem hexValue?_toUpper_hexDigit :
    ∀ value < 16, hexValue? (hexDigit value).toUpper = some value := by decide

/-- The number written by hexadecimal digits; none if a character is no digit. -/
def hexNumber? (cs : List Char) : Option Nat :=
  cs.foldlM (fun value c => (hexValue? c).map (16 * value + ·)) 0

/-- Bytes in lower-case digits, two a byte. -/
def hexOfBytes (bytes : List UInt8) : List Char :=
  bytes.flatMap fun byte => hexFixed 2 byte.toNat

/-- The bytes written by pairs of digits; none if a digit is missing or wrong. -/
def bytesOfHex? : List Char → Option (List UInt8)
  | [] => some []
  | high :: low :: rest => do
    let value := 16 * (← hexValue? high) + (← hexValue? low)
    return UInt8.ofNat value :: (← bytesOfHex? rest)
  | [_] => none

end Issuance.Text
