import Issuance.Number.Double

/-! Free-form data: what JSON can say, with whole numbers and doubles kept apart, and secrets. -/

namespace Issuance

/-- A piece of free-form data. -/
inductive Value where
  | null
  | bool (b : Bool)
  | int (n : Int)
  | float (x : Double)
  | text (s : String)
  | secret (s : String)
  | list (items : List Value)
  | record (members : List (String × Value))
  deriving Inhabited

/-- The members of a mapping, each key once, in the order in which the keys first came. -/
abbrev Members := List (String × Value)

namespace Value

/-- Data that may be missing, which is then null. -/
def orNull (found : Option Value) : Value := found.getD null

/-- A text that may be missing. -/
def textOrNull (found : Option String) : Value := orNull (found.map text)

/-- A list of texts. -/
def texts (items : List String) : Value := list (items.map text)

end Value

namespace Members

/-- Sets the value of a key: in its place if it is there, else at the end. -/
def put (key : String) (value : Value) : Members → Members
  | [] => [(key, value)]
  -- The place of the first occurrence is kept, as the order of members can be seen.
  | (k, v) :: rest => if k = key then (k, value) :: rest else (k, v) :: put key value rest

/-- The value of a key. -/
def get? (members : Members) (key : String) : Option Value := members.lookup key

end Members

end Issuance
