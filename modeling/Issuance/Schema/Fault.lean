/-! What is wrong with a piece of input, where, and the outcome of checking it. -/

namespace Issuance

/-- One step from a value into a part of it. -/
inductive Fault.Step where
  | key (name : String)
  | index (position : Nat)
  deriving DecidableEq, Repr

/-- What is wrong with a part of the input. -/
inductive Fault.Kind where
  /-- A member that has no default is not there. -/
  | missing
  /-- Something else stands where a record is due. -/
  | notRecord
  | notText
  | notInteger
  /-- A text that spells no whole number. -/
  | integerText
  /-- A whole number beyond what can be taken from a double, or from so long a text. -/
  | integerRange
  /-- A double with a fraction where a whole number is due. -/
  | integerFraction
  /-- An infinity or no number where a whole number is due. -/
  | notFinite
  | notNumber
  | numberText
  | notBoolean
  | booleanText
  | notChoice
  | notList
  | notMapping
  | tooShort
  | belowMinimum
  /-- A rule of the record itself refuses the value. -/
  | refused
  | notMoment
  | momentText
  | momentRange
  /-- The text is not JSON at all. -/
  | notJson
  /-- A record whose members cannot be set after it is made. -/
  | frozen
  deriving DecidableEq, Repr

/-- One complaint about the input. -/
structure Fault where
  kind : Fault.Kind
  path : List Fault.Step := []
  deriving DecidableEq, Repr

/-- The same complaint, seen from the value that holds the part. -/
def Fault.inside (step : Fault.Step) (fault : Fault) : Fault :=
  { fault with path := step :: fault.path }

/-- The outcome of a check: a value, or every fault that was found. -/
inductive Validated (α : Type) where
  | valid (value : α)
  | invalid (faults : List Fault)
  deriving DecidableEq, Repr

namespace Validated

variable {α β : Type}

/-- A single fault at the value itself. -/
def fault (kind : Fault.Kind) : Validated α := .invalid [{ kind }]

/-- Applies a function to a value that passed. -/
def map (f : α → β) : Validated α → Validated β
  | .valid value => .valid (f value)
  | .invalid faults => .invalid faults

/-- Two outcomes side by side: the faults of both are kept, the left ones first. -/
def seq (f : Validated (α → β)) (value : Validated α) : Validated β :=
  match f, value with
  | .valid f, .valid value => .valid (f value)
  | .valid _, .invalid faults => .invalid faults
  | .invalid faults, .valid _ => .invalid faults
  -- One check tells all that is wrong, not only what is wrong first.
  | .invalid left, .invalid right => .invalid (left ++ right)

instance : Applicative Validated where
  pure := .valid
  map := map
  seq f value := seq f (value ())

/-- A further check on a value that passed. -/
def andThen (outcome : Validated α) (next : α → Validated β) : Validated β :=
  match outcome with
  | .valid value => next value
  | .invalid faults => .invalid faults

/-- The same outcome, seen from the value that holds the part. -/
def inside (step : Fault.Step) : Validated α → Validated α
  | .valid value => .valid value
  | .invalid faults => .invalid (faults.map (·.inside step))

/-- The value, if the check passed. -/
def toOption : Validated α → Option α
  | .valid value => some value
  | .invalid _ => none

end Validated

end Issuance
