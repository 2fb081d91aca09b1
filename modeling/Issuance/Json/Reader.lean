import Issuance.Value
import Issuance.Number.Numeral
import Issuance.Text.Hex
import Issuance.Text.Utf8

/-! Strict reading of JSON text, with the names of numbers that are not finite and bounds on nesting and on numbers. -/

namespace Issuance.Json

/-- How much of a text a reader takes on. -/
structure Limits where
  /-- How many arrays and objects that hold something may stand inside one another, the outermost counted. -/
  depth : Nat
  /-- How many characters the whole part of a number may have, its sign counted. -/
  width : Nat

/-- The limits for what the service sends. -/
def Limits.usual : Limits := ⟨200, 4300⟩

/-- The four characters that may stand between tokens. -/
def isSpace (c : Char) : Bool := c == ' ' || c == '\t' || c == '\n' || c == '\r'

/-- Drops the space before the next token. -/
def skipSpace (cs : List Char) : List Char := cs.dropWhile isSpace

/-- What follows a word, if the text begins with it. -/
def word? : List Char → List Char → Option (List Char)
  | [], cs => some cs
  | _ :: _, [] => none
  | w :: ws, c :: cs => if w = c then word? ws cs else none

/-- The number written by the four digits of an escape, and what follows them. -/
def escapeUnit? : List Char → Option (Nat × List Char)
  | a :: b :: c :: d :: rest => (Text.hexNumber? [a, b, c, d]).map (·, rest)
  | _ => none

/-- The character of a numeric escape; a surrogate needs its partner in a second escape. -/
def unicodeEscape? (cs : List Char) : Option (Char × List Char) := do
  -- The first of a pair holds the upper ten bits above 0x10000, the second one the lower ten.
  let (unit, rest) ← escapeUnit? cs
  if unit < 0xD800 ∨ 0xDFFF < unit then return (Char.ofNat unit, rest)
  else if unit < 0xDC00 then
    let rest ← word? ['\\', 'u'] rest
    let (low, rest) ← escapeUnit? rest
    if 0xDC00 ≤ low ∧ low ≤ 0xDFFF then
      return (Char.ofNat (0x10000 + (unit - 0xD800) * 0x400 + (low - 0xDC00)), rest)
    else none
  else none

/-- The character behind a backslash, and what follows it. -/
def escape? : List Char → Option (Char × List Char)
  | '"' :: rest => some ('"', rest)
  | '\\' :: rest => some ('\\', rest)
  | '/' :: rest => some ('/', rest)
  | 'b' :: rest => some ('\x08', rest)
  | 'f' :: rest => some ('\x0c', rest)
  | 'n' :: rest => some ('\n', rest)
  | 'r' :: rest => some ('\r', rest)
  | 't' :: rest => some ('\t', rest)
  | 'u' :: rest => unicodeEscape? rest
  | _ => none

/-- The rest of a string up to its closing quote; the budget bounds the number of characters. -/
def stringBody? : Nat → List Char → Option (List Char × List Char)
  | 0, _ => none
  | _ + 1, [] => none
  | budget + 1, c :: rest =>
    if c = '"' then some ([], rest)
    else if c.toNat < 0x20 then none
    else if c = '\\' then do
      let (escaped, rest) ← escape? rest
      let (body, rest) ← stringBody? budget rest
      return (escaped :: body, rest)
    else do
      let (body, rest) ← stringBody? budget rest
      return (c :: body, rest)

/-- A string behind its opening quote. -/
def string? (cs : List Char) : Option (String × List Char) :=
  (stringBody? (cs.length + 1) cs).map fun (body, rest) => (String.ofList body, rest)

/-- The whole part of a number: one zero, or digits that do not begin with one. -/
def wholePart? (cs : List Char) : Option (List Char × List Char) :=
  match Numeral.digits cs with
  | ([], _) => none
  | ('0' :: _ :: _, _) => none
  | found => some found

/-- The fraction of a number, if a point is there; a point needs digits behind it. -/
def fractionPart? : List Char → Option (Option (List Char) × List Char)
  | '.' :: rest =>
    match Numeral.digits rest with
    | ([], _) => none
    | (fraction, rest) => some (some fraction, rest)
  | cs => some (none, cs)

/-- The power of ten of a number, if a mark is there; a mark needs digits behind it. -/
def powerPart? : List Char → Option (Option Int × List Char)
  | [] => some (none, [])
  | mark :: rest =>
    if mark = 'e' ∨ mark = 'E' then
      let (negative, cs) := Numeral.sign rest
      match Numeral.digits cs with
      | ([], _) => none
      | (digits, rest) => some (some (Numeral.signed negative (Numeral.value digits)), rest)
    else some (none, mark :: rest)

/-- A number behind its sign: whole without a fraction or power, else a double. -/
def number? (width : Nat) (negative : Bool) (cs : List Char) : Option (Value × List Char) := do
  let (whole, rest) ← wholePart? cs
  -- The whole part is measured before it is known whether a fraction follows.
  guard (whole.length + negative.toNat ≤ width)
  let (fraction, rest) ← fractionPart? rest
  let (power, rest) ← powerPart? rest
  match fraction, power with
  -- Only a bare run of digits is whole; `1.0` and `1e0` are doubles.
  | none, none => return (.int (Numeral.signed negative (Numeral.value whole)), rest)
  | _, _ => return (.float (Numeral.double negative whole (fraction.getD []) (power.getD 0)), rest)

/-- A value that holds no other values. -/
def scalar? (width : Nat) : List Char → Option (Value × List Char)
  | '"' :: rest => (string? rest).map fun (s, rest) => (.text s, rest)
  | 't' :: rest => (word? ['r', 'u', 'e'] rest).map (.bool true, ·)
  | 'f' :: rest => (word? ['a', 'l', 's', 'e'] rest).map (.bool false, ·)
  | 'n' :: rest => (word? ['u', 'l', 'l'] rest).map (.null, ·)
  | 'N' :: rest => (word? ['a', 'N'] rest).map (.float .notANumber, ·)
  | 'I' :: rest => (word? "nfinity".toList rest).map (.float (.infinite false), ·)
  | '-' :: 'I' :: rest => (word? "nfinity".toList rest).map (.float (.infinite true), ·)
  | '-' :: rest => number? width true rest
  | cs => number? width false cs

/-- Reads one value off a text. -/
abbrev Read := List Char → Option (Value × List Char)

/-- The items of an array from the first one on, up to the closing bracket. -/
def items? (read : Read) : Nat → List Char → Option (List Value × List Char)
  | 0, _ => none
  | budget + 1, cs => do
    let (item, rest) ← read cs
    match skipSpace rest with
    | ']' :: rest => return ([item], rest)
    | ',' :: rest =>
      let (items, rest) ← items? read budget rest
      return (item :: items, rest)
    | _ => none

/-- An array behind its opening bracket. -/
def array? (read : Read) (cs : List Char) : Option (Value × List Char) :=
  match skipSpace cs with
  | ']' :: rest => some (.list [], rest)
  | cs => (items? read (cs.length + 1) cs).map fun (items, rest) => (.list items, rest)

/-- A key, its colon, and its value. -/
def member? (read : Read) (cs : List Char) : Option ((String × Value) × List Char) :=
  match skipSpace cs with
  | '"' :: rest => do
    let (key, rest) ← string? rest
    match skipSpace rest with
    | ':' :: rest =>
      let (value, rest) ← read rest
      return ((key, value), rest)
    | _ => none
  | _ => none

/-- The members of an object from the first one on, up to the closing brace. -/
def members? (read : Read) : Nat → List Char → Option (List (String × Value) × List Char)
  | 0, _ => none
  | budget + 1, cs => do
    let (member, rest) ← member? read cs
    match skipSpace rest with
    | '}' :: rest => return ([member], rest)
    | ',' :: rest =>
      let (members, rest) ← members? read budget rest
      return (member :: members, rest)
    | _ => none

/-- Members with each key once: the last value, in the place of the first. -/
def collect (members : List (String × Value)) : Members :=
  members.foldl (fun found (key, value) => found.put key value) []

/-- An object behind its opening brace. -/
def object? (read : Read) (cs : List Char) : Option (Value × List Char) :=
  match skipSpace cs with
  | '}' :: rest => some (.record [], rest)
  | cs => (members? read (cs.length + 1) cs).map fun (members, rest) => (.record (collect members), rest)

/-- A value that goes at most as deep as the first argument says, and what follows it. -/
def value? (width : Nat) : Nat → Read
  | 0, cs =>
    match skipSpace cs with
    -- At the bottom an array or object can still be empty.
    | '[' :: rest => array? (fun _ => none) rest
    | '{' :: rest => object? (fun _ => none) rest
    | cs => scalar? width cs
  | depth + 1, cs =>
    match skipSpace cs with
    | '[' :: rest => array? (value? width depth) rest
    | '{' :: rest => object? (value? width depth) rest
    | cs => scalar? width cs

/-- The value a text begins with, within limits, and what follows it. -/
def Limits.value? (limits : Limits) : Read := Json.value? limits.width limits.depth

/-- The value a text is, with nothing but space around it. -/
def readText? (cs : List Char) : Option Value :=
  match Limits.usual.value? cs with
  | some (value, rest) => if (skipSpace rest).isEmpty then some value else none
  | none => none

/-- The value a byte string is: UTF-8 without a byte order mark. -/
def read? (bytes : Bytes) : Option Value := do readText? (← Utf8.decodeList? bytes)

end Issuance.Json
