import Issuance.Value

/-! What the platform refuses by itself: numbers of too many digits, data of too many levels, and some waits. -/

namespace Issuance

/-- A refusal of the platform, which nothing turns into a failure. -/
inductive Lapse where
  /-- A value that is not taken. -/
  | value
  /-- A number that does not fit. -/
  | overflow
  deriving DecidableEq, Repr

namespace Platform

/-- The most decimal digits that a whole number is written with, or read from. -/
def digitLimit : Nat := 4300

/-- Whether a whole number has more decimal digits than that. -/
def isTooLong (n : Int) : Bool := Nat.pow 10 digitLimit ≤ n.natAbs

/-- A whole number in decimal. -/
def decimal (n : Int) : Except Lapse String :=
  if isTooLong n then .error .value else .ok (toString n)

/-- The least number of levels that free-form data is not written with any more. -/
def levelLimit : Nat := 255

end Platform

namespace Value

mutual

/-- The levels of free-form data: one, and those of the deepest of its parts. -/
def levels : Value → Nat
  | .list items => 1 + itemLevels items
  | .record members => 1 + memberLevels members
  | _ => 1

/-- The levels of the deepest item of a list. -/
def itemLevels : List Value → Nat
  | [] => 0
  | item :: rest => max item.levels (itemLevels rest)

/-- The levels of the deepest member of a mapping. -/
def memberLevels : List (String × Value) → Nat
  | [] => 0
  | (_, value) :: rest => max value.levels (memberLevels rest)

end

end Value

/-- What waits for a number of seconds, as what it refuses to wait for and why. -/
abbrev Sleeper := Double → Option Lapse

/-- The least number of nanoseconds that is too great to wait for. -/
def Sleeper.nanosecondLimit : Int := Int.pow 2 63

/-- The sleeper of the platform, which counts nanoseconds in sixty-four bits and does not go back in time. -/
def Sleeper.system : Sleeper := fun seconds =>
  let nanoseconds := seconds * .ofInt 1000000000
  if seconds = .notANumber then some .value
  else if !(Double.ofInt (-nanosecondLimit)).le nanoseconds ||
      !nanoseconds.lt (.ofInt nanosecondLimit) then some .overflow
  else if seconds.lt .zero then some .value
  else none

end Issuance
