/-! Dates with a time of day and an optional offset from UTC, and their written forms. -/

namespace Issuance

/-- A calendar date and time of day, to the microsecond; without an offset it names no point in time. -/
structure Moment where
  year : Nat
  month : Nat
  day : Nat
  hour : Nat := 0
  minute : Nat := 0
  second : Nat := 0
  microsecond : Nat := 0
  /-- Microseconds east of UTC. -/
  offset : Option Int := none
  deriving DecidableEq, Repr, Inhabited

namespace Moment

/-- Whether a year has a leap day. -/
def isLeap (year : Nat) : Bool := year % 4 == 0 && (year % 100 != 0 || year % 400 == 0)

/-- How many days a month has; none outside the twelve. -/
def daysInMonth (year : Nat) : Nat → Nat
  | 1 | 3 | 5 | 7 | 8 | 10 | 12 => 31
  | 4 | 6 | 9 | 11 => 30
  | 2 => if isLeap year then 29 else 28
  | _ => 0

/-- Whether the fields name a day of the calendar and a time of it. -/
def Valid (m : Moment) : Prop :=
  1 ≤ m.year ∧ m.year ≤ 9999 ∧ 1 ≤ m.month ∧ m.month ≤ 12 ∧ 1 ≤ m.day ∧
    m.day ≤ daysInMonth m.year m.month ∧ m.hour < 24 ∧ m.minute < 60 ∧ m.second < 60 ∧
    m.microsecond < 1000000 ∧ ∀ offset ∈ m.offset, offset.natAbs < 86400000000

instance (m : Moment) : Decidable m.Valid := by
  unfold Valid; infer_instance

/-- The year, month and day a number of days after 1970-01-01. -/
def civil (days : Int) : Int × Nat × Nat :=
  -- Years are counted from March, so that a leap day ends its year; 400 of them have 146097 days.
  let shifted := days + 719468
  let era := shifted.fdiv 146097
  let dayOfEra := (shifted - era * 146097).toNat
  let yearOfEra := (dayOfEra - dayOfEra / 1460 + dayOfEra / 36524 - dayOfEra / 146096) / 365
  let dayOfYear := dayOfEra - (365 * yearOfEra + yearOfEra / 4 - yearOfEra / 100)
  let monthFromMarch := (5 * dayOfYear + 2) / 153
  let day := dayOfYear - (153 * monthFromMarch + 2) / 5 + 1
  let month := if monthFromMarch < 10 then monthFromMarch + 3 else monthFromMarch - 9
  (yearOfEra + era * 400 + (if month ≤ 2 then 1 else 0), month, day)

/-- A number in decimal, with zeros before it up to a width. -/
def padded (width value : Nat) : List Char :=
  let digits := Nat.toDigits 10 value
  List.replicate (width - digits.length) '0' ++ digits

/-- The date, as year, month and day. -/
def dateText (m : Moment) : List Char :=
  padded 4 m.year ++ '-' :: padded 2 m.month ++ '-' :: padded 2 m.day

/-- The time of day, with microseconds only if there are some. -/
def timeText (m : Moment) : List Char :=
  padded 2 m.hour ++ ':' :: padded 2 m.minute ++ ':' :: padded 2 m.second ++
    (if m.microsecond = 0 then [] else '.' :: padded 6 m.microsecond)

/-- The offset of some minutes east of UTC. -/
def minutesEast (minutes : Int) : Int := 60000000 * minutes

/-- Some seconds east or west of UTC, as a sign, hours and whole minutes. -/
def zoneText (west : Bool) (seconds : Nat) : List Char :=
  (if west then '-' else '+') :: padded 2 (seconds / 3600) ++ ':' :: padded 2 (seconds / 60 % 60)

/-- An offset as a sign, hours and minutes, with seconds and microseconds only if there are some. -/
def offsetText (offset : Int) : List Char :=
  let magnitude := offset.natAbs
  let seconds := magnitude / 1000000
  zoneText (offset < 0) seconds ++
    (if magnitude % 60000000 = 0 then [] else ':' :: padded 2 (seconds % 60)) ++
    (if magnitude % 1000000 = 0 then [] else '.' :: padded 6 (magnitude % 1000000))

/-- The written form, with UTC as a zero offset. -/
def text (m : Moment) : String :=
  String.ofList (m.dateText ++ 'T' :: m.timeText ++ (m.offset.map offsetText).getD [])

/-- The written form to the second. -/
def textToSecond (m : Moment) : String := { m with microsecond := 0 }.text

/-- The mark of an offset on the wire, with UTC as `Z`. Seconds are rounded, and then left out. -/
def wireMark : Option Int → List Char
  | none => []
  | some offset =>
    let seconds := (offset.natAbs + 500000) / 1000000
    if seconds = 0 then ['Z'] else zoneText (offset < 0) seconds

/-- The written form on the wire. -/
def wireText (m : Moment) : String :=
  String.ofList (m.dateText ++ 'T' :: m.timeText ++ wireMark m.offset)

end Moment

end Issuance
