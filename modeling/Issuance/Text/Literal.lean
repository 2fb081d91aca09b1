import Issuance.Value
import Issuance.Number.Shortest
import Issuance.Text.Quoted

/-! Data written into a message: literals with quoted texts, brackets and braces. -/

namespace Issuance.Literal

/-- Literals with a comma and a space between them. -/
def separated (parts : List String) : String := ", ".intercalate parts

/-- The literal of a list. -/
def ofList (items : List String) : String := "[" ++ separated items ++ "]"

/-- The literal of a mapping, from the literals of its keys and values. -/
def ofMapping (entries : List (String × String)) : String :=
  "\x7b" ++ separated (entries.map fun (key, value) => key ++ ": " ++ value) ++ "\x7d"

/-- The literal of a boolean. -/
def ofBool (b : Bool) : String := if b then "True" else "False"

/-- The literal of nothing. -/
def none : String := "None"

/-- What a secret is shown as; an empty one is shown to be empty. -/
def mask (secret : String) : String := if secret.isEmpty then "" else "**********"

/-- The literal of a secret, which does not tell it. -/
def ofSecret (secret : String) : String := "SecretStr('" ++ mask secret ++ "')"

mutual

/-- The literal of a piece of data. -/
def ofValue : Value → String
  | .null => none
  | .bool b => ofBool b
  | .int n => toString n
  | .float x => x.text
  | .text s => Text.quoted s
  | .secret s => ofSecret s
  | .list items => ofList (ofItems items)
  | .record members => ofMapping (ofMembers members)

/-- The literals of the items of a list. -/
def ofItems : List Value → List String
  | [] => []
  | item :: rest => ofValue item :: ofItems rest

/-- The literals of the keys and values of a mapping. -/
def ofMembers : List (String × Value) → List (String × String)
  | [] => []
  | (key, value) :: rest => (Text.quoted key, ofValue value) :: ofMembers rest

end

end Issuance.Literal
