import Issuance.Text.Utf8

/-! The distinguished encoding of structured data: tagged elements with one form for each length and value. -/

namespace Issuance.Der

/-- The kind of an element. -/
structure Tag where
  /-- 0 for universal kinds, 2 for kinds that their context gives a meaning. -/
  space : Nat := 0
  constructed : Bool := false
  number : Nat
  deriving DecidableEq, Repr

/-- A step that takes what it reads from the front of a byte string. -/
abbrev Reader := StateT Bytes Option

namespace Tag

def boolean : Tag := { number := 1 }
def integer : Tag := { number := 2 }
def bitString : Tag := { number := 3 }
def octetString : Tag := { number := 4 }
def null : Tag := { number := 5 }
def objectId : Tag := { number := 6 }
def utcTime : Tag := { number := 23 }
def generalTime : Tag := { number := 24 }
def sequence : Tag := { constructed := true, number := 16 }
def set : Tag := { constructed := true, number := 17 }

/-- A structured kind that its context gives a meaning. -/
def context (number : Nat) : Tag := { space := 2, constructed := true, number }

/-- A plain kind that its context gives a meaning. -/
def contextPlain (number : Nat) : Tag := { space := 2, number }

end Tag

variable {α : Type}

/-- One byte. -/
def byte : Reader UInt8 := fun
  | [] => none
  | first :: rest => some (first, rest)

/-- A number in groups of seven bits, the first of which is not zero; at most as many groups as given. -/
def groups (value : Nat) : Nat → Reader Nat
  | 0 => failure
  | count + 1 => do
    let next ← byte
    if value = 0 ∧ next = 0x80 then failure
    let value := value * 128 + next.toNat % 128
    if next < 0x80 then return value else groups value count

/-- How many groups of seven bits a number may have. -/
def maxGroups : Nat := 4

/-- A tag; a number that fits the first byte stands there. -/
def tag : Reader Tag := do
  let first := (← byte).toNat
  let space := first / 64
  let constructed := first / 32 % 2 == 1
  if first % 32 < 31 then return { space, constructed, number := first % 32 }
  else
    let number ← groups 0 maxGroups
    if number < 31 then failure else return { space, constructed, number }

/-- A number of as many bytes as given, most significant first. -/
def bytesNumber (value : Nat) : Nat → Reader Nat
  | 0 => return value
  | count + 1 => do bytesNumber (value * 256 + (← byte).toNat) count

/-- A length in its shortest form. -/
def length : Reader Nat := do
  let first := (← byte).toNat
  if first < 128 then return first
  -- A long form names the count of its bytes, and has to need them.
  let count := first - 128
  if count = 0 ∨ 4 < count then failure
  let value ← bytesNumber 0 count
  if value < (if count = 1 then 128 else Nat.pow 256 (count - 1)) then failure else return value

/-- An element: its tag and its contents. -/
def element : Reader (Tag × Bytes) := do
  let tag ← tag
  let length ← length
  let bytes ← get
  if bytes.length < length then failure
  set (bytes.drop length)
  return (tag, bytes.take length)

/-- The contents of an element with the given tag. -/
def expect (wanted : Tag) : Reader Bytes := do
  let (found, contents) ← element
  if found = wanted then return contents else failure

/-- Reads a byte string from end to end. -/
def whole (reader : Reader α) (bytes : Bytes) : Option α :=
  match reader bytes with
  | some (value, []) => some value
  | _ => none

/-- Reads the contents of an element with the given tag from end to end. -/
def inside (wanted : Tag) (reader : Reader α) : Reader α := do
  match whole reader (← expect wanted) with
  | some value => return value
  | none => failure

/-- Whether the next element has the given tag. -/
def next (wanted : Tag) : Reader Bool := do
  -- The tag is read without taking it.
  match tag (← get) with
  | some (found, _) => return found == wanted
  | none => return false

/-- Reads an element if the next one has the given tag. -/
def ifNext (wanted : Tag) (reader : Reader α) : Reader (Option α) := do
  if ← next wanted then some <$> reader else return none

/-- Reads until nothing is left, by at most as many steps as given. -/
def repeated (reader : Reader α) : Nat → Reader (List α)
  | 0 => do if (← get).isEmpty then return [] else failure
  | count + 1 => do
    if (← get).isEmpty then return []
    let first ← reader
    return first :: (← repeated reader count)

/-- Reads until nothing is left. -/
def all (reader : Reader α) : Reader (List α) := do repeated reader (← get).length

/-- What a reader takes, along with what it makes of it. -/
def withSource (reader : Reader α) : Reader (Bytes × α) := do
  let before ← get
  let value ← reader
  return (before.take (before.length - (← get).length), value)

/-- Whether a list of byte strings is in order. -/
def ascending : List Bytes → Bool
  | first :: second :: rest => !(decide (second < first)) && ascending (second :: rest)
  | _ => true

/-- The members of a set, which stand in the order of their bytes. -/
def setMembers (reader : Reader α) : Reader (List α) := do
  let members ← all (withSource reader)
  if ascending (members.map (·.1)) then return members.map (·.2) else failure

/-- The contents of an integer, without a first byte that says nothing. -/
def integer : Reader Bytes := do
  match ← expect .integer with
  | [] => failure
  | [single] => return [single]
  | first :: second :: rest =>
    if (first = 0 ∧ second < 0x80) ∨ (first = 0xFF ∧ 0x80 ≤ second) then failure
    else return first :: second :: rest

/-- The number in the contents of an integer, if it is not negative. -/
def natural : Reader Nat := do
  let contents ← integer
  if contents.head?.any (0x80 ≤ ·) then failure
  match bytesNumber 0 contents.length contents with
  | some (value, _) => return value
  | none => failure

/-- The contents of an object identifier. -/
def objectId : Reader Bytes := do
  let contents ← expect .objectId
  if contents.isEmpty ∨ 63 < contents.length then failure
  match whole (all (groups 0 maxGroups)) contents with
  | some _ => return contents
  | none => failure

/-- The bits of a bit string; what its last byte has over is zero. -/
def bitString (wanted : Tag := .bitString) : Reader Bytes := do
  match ← expect wanted with
  | [] => failure
  | unused :: bits =>
    let rest := bits.getLast?.getD 0
    if 7 < unused ∨ (bits.isEmpty ∧ unused ≠ 0) ∨ rest.toNat % Nat.pow 2 unused.toNat ≠ 0 then failure
    else return bits

/-- A boolean, as no bits or all of them. -/
def boolean : Reader Bool := do
  match ← expect .boolean with
  | [0x00] => return false
  | [0xFF] => return true
  | _ => failure

/-- Nothing at all. -/
def null : Reader Unit := do
  match ← expect .null with
  | [] => return ()
  | _ => failure

/-- The contents of an object identifier given by its numbers. -/
def objectIdOf : List Nat → Bytes
  | first :: second :: rest =>
    ((40 * first + second) :: rest).flatMap fun number =>
      let digits := (Nat.toDigits 128 number).length
      (List.range digits).map fun place =>
        let power := digits - 1 - place
        UInt8.ofNat (number / Nat.pow 128 power % 128 + (if power = 0 then 0 else 128))
  | _ => []

end Issuance.Der
