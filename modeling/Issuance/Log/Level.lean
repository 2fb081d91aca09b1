import Issuance.Text.Case
import Issuance.Text.Quoted

/-! Levels of log events, and the names and numbers they are chosen by. -/

namespace Issuance

/-- How much an event matters; as a bound, `notSet` sets none. -/
inductive Level where
  | notSet
  | debug
  | info
  | warning
  | error
  | critical
  deriving DecidableEq, Repr

namespace Level

/-- The number of a level; greater ones matter more. -/
def number : Level → Nat
  | notSet => 0
  | debug => 10
  | info => 20
  | warning => 30
  | error => 40
  | critical => 50

/-- The word a level is logged with. -/
def word : Level → String
  | notSet => "notset"
  | debug => "debug"
  | info => "info"
  | warning => "warning"
  | error => "error"
  | critical => "critical"

/-- Whether an event of a level passes a bound. -/
def passes (level bound : Level) : Bool := bound.number ≤ level.number

/-- The level at which a kind of event is logged, by the name of the kind. -/
def ofWord? : String → Option Level
  | "debug" => some debug
  | "info" => some info
  | "warning" | "warn" => some warning
  | "error" => some error
  | "critical" | "fatal" => some critical
  | _ => none

/-- The level a name in upper case stands for. -/
def ofUpperName? : String → Option Level
  | "CRITICAL" | "FATAL" => some critical
  | "ERROR" => some error
  | "WARNING" | "WARN" => some warning
  | "INFO" => some info
  | "DEBUG" => some debug
  | "NOTSET" => some notSet
  | _ => none

/-- The level with a number. -/
def ofNumber? (number : Int) : Option Level :=
  [notSet, debug, info, warning, error, critical].find? fun level => level.number = number

/-- A level as a caller gives it. -/
inductive Choice where
  | named (name : String)
  | numbered (number : Int)
  deriving DecidableEq, Repr

/-- Why a choice is no level. -/
inductive ChoiceError where
  | unknownName (name : String)
  | unknownNumber (number : Int)
  deriving DecidableEq, Repr

/-- The wording of the error for a name; a number that no level has is refused without one. -/
def ChoiceError.message? : ChoiceError → Option String
  | unknownName name => some ("Unknown log level: " ++ Text.quoted name)
  | unknownNumber _ => none

/-- The level a choice stands for; names are known in any case. -/
def Choice.resolve : Choice → Except ChoiceError Level
  | named name =>
    match ofUpperName? (Text.upper name) with
    | some level => .ok level
    | none => .error (.unknownName name)
  | numbered number =>
    match ofNumber? number with
    | some level => .ok level
    | none => .error (.unknownNumber number)

end Level

end Issuance
