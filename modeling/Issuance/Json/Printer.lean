import Issuance.Value
import Issuance.Number.Shortest
import Issuance.Text.Hex

/-! JSON text of free-form data, without space and with no escape that is not needed. -/

namespace Issuance.Json

/-- One character inside a string. -/
def escapeChar (c : Char) : List Char :=
  if c = '"' then ['\\', '"']
  else if c = '\\' then ['\\', '\\']
  else if c.toNat < 0x20 then '\\' :: 'u' :: Text.hexFixed 4 c.toNat
  else [c]

/-- A string between quotes. -/
def printString (s : String) : List Char := '"' :: s.toList.flatMap escapeChar ++ ['"']

/-- A double: its shortest text, or a name if it is not finite. -/
def printDouble (x : Double) : String :=
  match x with
  | .notANumber => "NaN"
  | .infinite negative => if negative then "-Infinity" else "Infinity"
  | .finite .. => x.text

mutual

/-- The text of a value; a secret is written as its text. -/
def printValue : Value → List Char
  | .null => ['n', 'u', 'l', 'l']
  | .bool true => ['t', 'r', 'u', 'e']
  | .bool false => ['f', 'a', 'l', 's', 'e']
  | .int n => (toString n).toList
  | .float x => (printDouble x).toList
  | .text s => printString s
  | .secret s => printString s
  | .list items => '[' :: printItems items ++ [']']
  | .record members => '{' :: printMembers members ++ ['}']

/-- Items with commas between them. -/
def printItems : List Value → List Char
  | [] => []
  | [item] => printValue item
  | item :: rest => printValue item ++ ',' :: printItems rest

/-- Members with commas between them. -/
def printMembers : List (String × Value) → List Char
  | [] => []
  | [(key, value)] => printString key ++ ':' :: printValue value
  | (key, value) :: rest => printString key ++ ':' :: printValue value ++ ',' :: printMembers rest

end

/-- The text of a value. -/
def print (value : Value) : String := String.ofList (printValue value)

end Issuance.Json
