import Issuance.Encoding.Der

/-! The curves of public keys: which points lie on them, and how points are written. -/

namespace Issuance.X509

/-- A curve `y² = x³ - 3x + b` over the integers modulo a prime that is three modulo four. -/
inductive Curve where
  | p256
  | p384
  | p521
  deriving DecidableEq, Repr

/-- A point of a curve by its coordinates. -/
structure Point where
  x : Nat
  y : Nat
  deriving DecidableEq, Repr

namespace Curve

/-- The identifier of a curve. -/
def objectId : Curve → Bytes
  | p256 => Der.objectIdOf [1, 2, 840, 10045, 3, 1, 7]
  | p384 => Der.objectIdOf [1, 3, 132, 0, 34]
  | p521 => Der.objectIdOf [1, 3, 132, 0, 35]

/-- The curve with an identifier. -/
def ofObjectId? (id : Bytes) : Option Curve := [p256, p384, p521].find? fun curve => curve.objectId == id

/-- The prime of the curve's field, which is close to a power of two. -/
def prime (curve : Curve) : Nat :=
  let power := Nat.pow 2
  match curve with
  | p256 => power 256 - power 224 + power 192 + power 96 - 1
  | p384 => power 384 - power 128 - power 96 + power 32 - 1
  | p521 => power 521 - 1

/-- The constant term of the curve. -/
def constant : Curve → Nat
  | p256 => 0x5AC635D8AA3A93E7B3EBBD55769886BC651D06B0CC53B0F63BCE3C3E27D2604B
  | p384 => 0xB3312FA7E23EE7E4988E056BE3F82D19181D9C6EFE8141120314088F5013875AC656398D8A2ED19D2A85C8EDD3EC2AEF
  | p521 => 0x0051953EB9618E1C9A1F929A21A0B68540EEA2DA725B99B315F3B8B489918EF109E156193951EC7E937B1652C0BD3BB1BF073573DF883D2C34F1EF451FD46B503F00

/-- How many bytes a coordinate takes. -/
def width : Curve → Nat
  | p256 => 32
  | p384 => 48
  | p521 => 66

/-- What the square of `y` has to be for a given `x`. -/
def square (curve : Curve) (x : Nat) : Nat :=
  -- The term of x is negative; the prime is added to stay within the natural numbers.
  (x * x * x + 3 * (curve.prime - x) + curve.constant) % curve.prime

/-- Whether coordinates are in range and name a point of the curve. -/
def contains (curve : Curve) (point : Point) : Bool :=
  point.x < curve.prime && point.y < curve.prime &&
    point.y * point.y % curve.prime == curve.square point.x

/-- A power in the curve's field, the exponent given by its bits with the lowest first. -/
def power (curve : Curve) (base : Nat) : List Bool → Nat
  | [] => 1
  | bit :: rest =>
    let half := power curve (base * base % curve.prime) rest
    if bit then half * base % curve.prime else half

/-- The bits of a number, the lowest first, in the given count. -/
def bits : Nat → Nat → List Bool
  | 0, _ => []
  | count + 1, value => (value % 2 == 1) :: bits count (value / 2)

/-- The `y` of a point with the given `x` and the given last bit, if there is one. -/
def solve? (curve : Curve) (x : Nat) (odd : Bool) : Option Point :=
  -- Modulo such a prime this power is a root of every square; what is no square is found out below.
  let root := curve.power (curve.square x) (bits 521 ((curve.prime + 1) / 4))
  let y := if (root % 2 == 1) == odd then root else curve.prime - root
  if curve.contains ⟨x, y⟩ then some ⟨x, y⟩ else none

/-- A number of the given count of bytes. -/
def number (bytes : Bytes) : Nat := bytes.foldl (fun total byte => 256 * total + byte.toNat) 0

/-- The point that bytes stand for: both coordinates, or `x` with the last bit of `y`. -/
def point? (curve : Curve) : Bytes → Option Point
  | [] => none
  | form :: coordinates =>
    let x := number (coordinates.take curve.width)
    let y := number (coordinates.drop curve.width)
    if coordinates.length = 2 * curve.width then
      -- The forms six and seven tell the last bit of `y` once more.
      if (form = 4 ∨ (form = 6 ∧ y % 2 = 0) ∨ (form = 7 ∧ y % 2 = 1)) ∧ curve.contains ⟨x, y⟩ then
        some ⟨x, y⟩
      else none
    else if coordinates.length = curve.width ∧ (form = 2 ∨ form = 3) then
      curve.solve? x (form = 3)
    else none

end Curve

end Issuance.X509
