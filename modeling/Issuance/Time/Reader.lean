import Issuance.Time.Moment
import Issuance.Number.Numeral

/-! Reading moments: from text, and from a count of seconds or milliseconds since 1970. -/

namespace Issuance.Moment

/-- The number written by exactly the given count of digits, and what follows them. -/
def digits? (count : Nat) (cs : List Char) : Option (Nat × List Char) :=
  let found := cs.take count
  if found.length = count ∧ found.all Char.isDigit then some (Numeral.value found, cs.drop count)
  else none

/-- What follows a character the text has to begin with. -/
def mark? (mark : Char) : List Char → Option (List Char)
  | [] => none
  | c :: rest => if c = mark then some rest else none

/-- A calendar date of four, two and two digits; the year may be zero. -/
def date? (cs : List Char) : Option (Moment × List Char) := do
  let (year, cs) ← digits? 4 cs
  let (month, cs) ← digits? 2 (← mark? '-' cs)
  let (day, cs) ← digits? 2 (← mark? '-' cs)
  if 1 ≤ day ∧ day ≤ daysInMonth year month then
    return ({ year := year, month := month, day := day }, cs)
  else none

/-- A fraction of a second behind its point or comma, cut to microseconds. -/
def fraction? (cs : List Char) : Option (Nat × List Char) :=
  match Numeral.digits cs with
  | ([], _) => none
  | (found, rest) => some (Numeral.value ((found ++ List.replicate 6 '0').take 6), rest)

/-- Seconds and microseconds, both of which may be left out. -/
def seconds? : List Char → Option (Nat × Nat × List Char)
  | ':' :: cs => do
    let (second, cs) ← digits? 2 cs
    if 60 ≤ second then none
    else match cs with
      | [] => return (second, 0, [])
      | c :: rest =>
        if c = '.' ∨ c = ',' then
          let (microsecond, rest) ← fraction? rest
          return (second, microsecond, rest)
        else return (second, 0, c :: rest)
  | cs => some (0, 0, cs)

/-- Hours and minutes of an offset, with or without a colon, below a day. -/
def offsetMinutes? (cs : List Char) : Option Int := do
  let (hours, cs) ← digits? 2 cs
  let cs := match cs with
    | ':' :: rest => rest
    | cs => cs
  let (minutes, cs) ← digits? 2 cs
  if cs.isEmpty ∧ minutes < 60 ∧ hours < 24 then return (60 * hours + minutes : Nat) else none

/-- The end of a moment: nothing, `Z`, or a signed offset. -/
def offset? : List Char → Option (Option Int)
  | [] => some none
  | c :: rest =>
    if c = 'Z' ∨ c = 'z' then if rest.isEmpty then some (some 0) else none
    else if c = '+' then (offsetMinutes? rest).map fun minutes => some (minutesEast minutes)
    else if c = '-' ∨ c = '−' then (offsetMinutes? rest).map fun minutes => some (minutesEast (-minutes))
    else none

/-- A date and a time of day with one separator between them. -/
def dateTime? (cs : List Char) : Option Moment := do
  let (date, cs) ← date? cs
  match cs with
  | [] => none
  | separator :: cs =>
    if ¬ (separator = 'T' ∨ separator = 't' ∨ separator = '_' ∨ separator = ' ') then none
    else
      let (hour, cs) ← digits? 2 cs
      let (minute, cs) ← digits? 2 (← mark? ':' cs)
      let (second, microsecond, cs) ← seconds? cs
      let offset ← offset? cs
      if hour < 24 ∧ minute < 60 then
        return { date with hour, minute, second, microsecond, offset }
      else none

/-- A date alone. -/
def dateAlone? (cs : List Char) : Option Moment := do
  let (date, cs) ← date? cs
  if cs.isEmpty then return date else none

/-- Counts above this are milliseconds. -/
def watershed : Nat := 20000000000

/-- The moment in UTC a count after 1970 names, with microseconds on top; none before 1600 or after 9999. -/
def ofCount? (count : Int) (microseconds : Nat) : Option Moment :=
  -- Seconds beyond the watershed lie so far ahead that milliseconds must be meant.
  let inMilliseconds := watershed < count.natAbs
  let (seconds, extra) :=
    if inMilliseconds then (count.fdiv 1000, (count.fmod 1000).toNat * 1000) else (count, 0)
  let total := microseconds + extra
  let seconds := seconds + (total / 1000000 : Nat)
  if -11676096000 ≤ seconds ∧ seconds ≤ 253402300799 then
    let (year, month, day) := civil (seconds.fdiv 86400)
    let inDay := (seconds.fmod 86400).toNat
    some { year := year.toNat, month := month, day := day, hour := inDay / 3600,
           minute := inDay / 60 % 60, second := inDay % 60,
           microsecond := total % 1000000, offset := some 0 }
  else none

/-- A fraction rounded to the nearest whole number, a half going up. -/
def roundHalfUp (numerator denominator : Nat) : Nat := (2 * numerator + denominator) / (2 * denominator)

/-- A part of a second in microseconds. -/
def microsecondsOf (numerator denominator : Nat) : Nat :=
  -- The product is a double before it is rounded to a whole number, which can move a half.
  match Double.ofRatio false (numerator * 1000000) denominator with
  | .finite _ significand exponent _ =>
    let (top, bottom) := Double.ratio significand exponent
    roundHalfUp top bottom
  | _ => 0

/-- The moment a double counts. The part behind its point is a part of a second, whatever the unit. -/
def ofDouble? (x : Double) : Option Moment :=
  match x, x.floor? with
  | .finite _ significand exponent _, some count =>
    let (top, bottom) := Double.ratio significand exponent
    ofCount? count (microsecondsOf (top % bottom) bottom)
  | _, _ => none

/-- The moment a numeral counts: an optional sign, digits that fit 64 bits, and an optional fraction. -/
def ofNumeral? (cs : List Char) : Option Moment :=
  let (negative, cs) := Numeral.sign cs
  let (whole, rest) := Numeral.digits cs
  if whole.isEmpty ∨ Nat.pow 2 63 ≤ Numeral.value whole then none
  else match rest with
    | [] => ofCount? (Numeral.signed negative (Numeral.value whole)) 0
    | '.' :: fraction =>
      if !fraction.all Char.isDigit then none
      else
        -- The count is brought to seconds first; only then is its fraction taken.
        match Numeral.double negative whole fraction 0 with
        | .finite sign significand exponent _ =>
          let (top, bottom) := Double.ratio significand exponent
          let bottom := if watershed * bottom < top then bottom * 1000 else bottom
          let signed : Int := if sign then -top else top
          ofCount? (signed.fdiv bottom) (microsecondsOf (signed.fmod bottom).toNat bottom)
        | _ => none
    | _ => none

/-- The moment a text names: a date with or without a time, or a numeral. The year may be zero. -/
def ofText? (s : String) : Option Moment :=
  let cs := s.toList
  -- A date alone comes last: its digits up to the first hyphen are no numeral.
  ((dateTime? cs).or (ofNumeral? cs)).or (dateAlone? cs)

end Issuance.Moment
