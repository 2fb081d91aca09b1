import Issuance.Text.Utf8

/-! The SHA-1 digest of a byte string. -/

namespace Issuance.Sha1

/-- The five words that are carried from block to block. -/
structure State where
  a : UInt32
  b : UInt32
  c : UInt32
  d : UInt32
  e : UInt32
  deriving DecidableEq, Repr

/-- The words a digest starts from. -/
def initial : State := ⟨0x67452301, 0xEFCDAB89, 0x98BADCFE, 0x10325476, 0xC3D2E1F0⟩

/-- Rotation to the left, by less than a word. -/
def rotate (count : UInt32) (word : UInt32) : UInt32 := (word <<< count) ||| (word >>> (32 - count))

/-- The bytes of a number, most significant first. -/
def bigEndian : Nat → Nat → Bytes
  | 0, _ => []
  | count + 1, value => bigEndian count (value / 256) ++ [UInt8.ofNat (value % 256)]

/-- The number written by bytes, most significant first. -/
def ofBigEndian (bytes : Bytes) : Nat := bytes.foldl (fun total byte => 256 * total + byte.toNat) 0

/-- A message filled up to whole blocks: a one bit, zeros, and the length in bits. -/
def padded (message : Bytes) : Bytes :=
  -- The zeros fill the last block up to its 56th byte; the length takes the eight that are left.
  message ++ 0x80 :: List.replicate ((119 - message.length % 64) % 64) 0 ++
    bigEndian 8 (8 * message.length)

/-- A list cut into pieces of a positive length; a shorter rest is left out. -/
def pieces {α : Type} (length : Nat) : Nat → List α → List (List α)
  | 0, _ => []
  | count + 1, items => items.take length :: pieces length count (items.drop length)

/-- The sixteen words of a block. -/
def words (block : Bytes) : List UInt32 :=
  (pieces 4 16 block).map fun bytes => UInt32.ofNat (ofBigEndian bytes)

/-- Further words, each from the sixteen before it; the latest word stands first. -/
def extend : Nat → List UInt32 → List UInt32
  | 0, latest => latest
  | count + 1, latest =>
    let word := rotate 1 (latest.getD 2 0 ^^^ latest.getD 7 0 ^^^ latest.getD 13 0 ^^^ latest.getD 15 0)
    extend count (word :: latest)

/-- The eighty words that drive the rounds of a block. -/
def schedule (block : Bytes) : List UInt32 := (extend 64 (words block).reverse).reverse

/-- The mixing function and constant of a round. -/
def mix (round : Nat) (b c d : UInt32) : UInt32 :=
  if round < 20 then ((b &&& c) ||| (~~~b &&& d)) + 0x5A827999
  else if round < 40 then (b ^^^ c ^^^ d) + 0x6ED9EBA1
  else if round < 60 then ((b &&& c) ||| (b &&& d) ||| (c &&& d)) + 0x8F1BBCDC
  else (b ^^^ c ^^^ d) + 0xCA62C1D6

/-- One round. -/
def step (state : State) (round : Nat × UInt32) : State :=
  let mixed := rotate 5 state.a + mix round.1 state.b state.c state.d + state.e + round.2
  ⟨mixed, state.a, rotate 30 state.b, state.c, state.d⟩

/-- The state after a block. -/
def compress (state : State) (block : Bytes) : State :=
  let mixed := ((List.range 80).zip (schedule block)).foldl step state
  ⟨state.a + mixed.a, state.b + mixed.b, state.c + mixed.c, state.d + mixed.d, state.e + mixed.e⟩

/-- The twenty bytes of the digest. -/
def digest (message : Bytes) : Bytes :=
  let whole := padded message
  let final := (pieces 64 (whole.length / 64) whole).foldl compress initial
  [final.a, final.b, final.c, final.d, final.e].flatMap fun word => bigEndian 4 word.toNat

/-- The digest that FIPS 180 gives for its message of two blocks. -/
example : digest
    (Utf8.encode "abcdbcdecdefdefgefghfghighijhijkijkljklmklmnlmnomnopnopq") = [
      0x84, 0x98, 0x3E, 0x44, 0x1C, 0x3B, 0xD2, 0x6E, 0xBA, 0xAE, 0x4A, 0xA1, 0xF9, 0x51, 0x29, 0xE5,
      0xE5, 0x46, 0x70, 0xF1] := by
  decide +kernel

end Issuance.Sha1
