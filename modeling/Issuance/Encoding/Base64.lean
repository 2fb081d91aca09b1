import Issuance.Text.Utf8

/-! Base64 with padding: a reader that takes exactly what writing gives, and one that passes over all else. -/

namespace Issuance.Base64

/-- The digit for six bits. -/
def digit (bits : Nat) : Char :=
  if bits < 26 then Char.ofNat ('A'.toNat + bits)
  else if bits < 52 then Char.ofNat ('a'.toNat + (bits - 26))
  else if bits < 62 then Char.ofNat ('0'.toNat + (bits - 52))
  else if bits = 62 then '+'
  else '/'

/-- The six bits of a digit. -/
def bits? (c : Char) : Option Nat :=
  if 'A' ≤ c ∧ c ≤ 'Z' then some (c.toNat - 'A'.toNat)
  else if 'a' ≤ c ∧ c ≤ 'z' then some (c.toNat - 'a'.toNat + 26)
  else if '0' ≤ c ∧ c ≤ '9' then some (c.toNat - '0'.toNat + 52)
  else if c = '+' then some 62
  else if c = '/' then some 63
  else none

/-- The digits of a byte string, four for three bytes, with padding for the bytes missing at the end. -/
def encode : Bytes → List Char
  | [] => []
  -- The bits of an unfinished group are shifted up to whole digits.
  | [a] =>
    let bits := a.toNat * 16
    [digit (bits / 64), digit (bits % 64), '=', '=']
  | [a, b] =>
    let bits := (a.toNat * 256 + b.toNat) * 4
    [digit (bits / 4096), digit (bits / 64 % 64), digit (bits % 64), '=']
  | a :: b :: c :: rest =>
    let bits := (a.toNat * 256 + b.toNat) * 256 + c.toNat
    digit (bits / 262144) :: digit (bits / 4096 % 64) :: digit (bits / 64 % 64) ::
      digit (bits % 64) :: encode rest

/-- The bytes behind digits. Padding has to be complete, and the bits it leaves over have to be zero. -/
def decode? : List Char → Option Bytes
  | [] => some []
  | [w, x, '=', '='] => do
    let bits := (← bits? w) * 64 + (← bits? x)
    -- Four bits are over behind one byte.
    if bits % 16 = 0 then some [UInt8.ofNat (bits / 16)] else none
  | [w, x, y, '='] => do
    let bits := ((← bits? w) * 64 + (← bits? x)) * 64 + (← bits? y)
    if bits % 4 = 0 then some [UInt8.ofNat (bits / 1024), UInt8.ofNat (bits / 4 % 256)] else none
  | w :: x :: y :: z :: rest => do
    let bits := (((← bits? w) * 64 + (← bits? x)) * 64 + (← bits? y)) * 64 + (← bits? z)
    return UInt8.ofNat (bits / 65536) :: UInt8.ofNat (bits / 256 % 256) ::
      UInt8.ofNat (bits % 256) :: (← decode? rest)
  | _ => none

/-- The whole bytes of up to four digits, given by their bits; what is over is dropped. -/
def wholeBytes : List Nat → Bytes
  | w :: x :: rest =>
    UInt8.ofNat (w * 4 + x / 16) :: match rest with
      | [] => []
      | y :: rest =>
        UInt8.ofNat (x * 16 + y / 4) :: match rest with
          | [] => []
          | z :: _ => [UInt8.ofNat (y * 64 + z)]
  | _ => []

/-- Goes on with the bits of the digits of a group so far, and the padding seen in it. -/
def decodeGroup? (group : List Nat) (padding : Nat) : List Char → Option Bytes
  | [] => if group.isEmpty then some [] else none
  | c :: rest =>
    if c = '=' then
      -- Padding counts only where a whole byte stands before it.
      if group.length < 2 then decodeGroup? group padding rest
      else if 4 ≤ group.length + (padding + 1) then some (wholeBytes group)
      else decodeGroup? group (padding + 1) rest
    else match bits? c with
      | none => decodeGroup? group padding rest
      | some bits =>
        if group.length < 3 then decodeGroup? (group ++ [bits]) 0 rest
        else (decodeGroup? [] 0 rest).map (wholeBytes (group ++ [bits]) ++ ·)

/-- The bytes behind digits, where other characters do not count and complete padding ends the text. -/
def decodeLoose? (cs : List Char) : Option Bytes := decodeGroup? [] 0 cs

end Issuance.Base64
