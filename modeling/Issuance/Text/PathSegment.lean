import Issuance.Text.Hex
import Issuance.Text.Utf8

/-! Texts written as one segment of a URL path, by percent escapes over UTF-8. -/

namespace Issuance.PathSegment

/-- A byte that stands for itself in a segment. -/
def isUnreserved (byte : UInt8) : Bool :=
  (48 ≤ byte && byte ≤ 57) || (65 ≤ byte && byte ≤ 90) || (97 ≤ byte && byte ≤ 122) ||
    byte == 45 || byte == 46 || byte == 95 || byte == 126

/-- One byte in a segment: itself, or its two upper-case digits behind a percent sign. -/
def encodeByte (byte : UInt8) : List Char :=
  -- Even a slash is escaped, so that no text can reach into another segment.
  if isUnreserved byte then [Char.ofNat byte.toNat]
  else '%' :: (Text.hexFixed 2 byte.toNat).map Char.toUpper

/-- A text as one path segment. -/
def encode (s : String) : String := String.ofList ((Utf8.encode s).flatMap encodeByte)

/-- The bytes written by the characters of a segment. -/
def decodeBytes? : List Char → Option Bytes
  | [] => some []
  | '%' :: high :: low :: rest => do
    let value := 16 * (← Text.hexValue? high) + (← Text.hexValue? low)
    return UInt8.ofNat value :: (← decodeBytes? rest)
  | c :: rest =>
    if c.toNat < 128 ∧ c ≠ '%' then (decodeBytes? rest).map (UInt8.ofNat c.toNat :: ·) else none

/-- The text a segment was written from. -/
def decode? (s : String) : Option String := do Utf8.decode? (← decodeBytes? s.toList)

end Issuance.PathSegment
