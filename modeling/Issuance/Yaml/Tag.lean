/-! Tags: what kind of data a YAML node holds, said openly or told from a plain text. -/

namespace Issuance.Yaml

/-- A kind of data. -/
inductive Tag where
  | null
  | bool
  | int
  | float
  | text
  | bytes
  | moment
  /-- A key whose value is merged into the mapping around it. -/
  | merge
  /-- A key whose value stands for the mapping around it where a text is due. -/
  | standIn
  | sequence
  | mapping
  | set
  | pairs
  | unknown
  deriving DecidableEq, Repr

namespace Tag

/-- Where the names of the known tags begin. -/
def namespaceName : String := "tag:yaml.org,2002:"

/-- The known tags by the ends of their names. -/
def known : List (String × Tag) :=
  [("null", null), ("bool", bool), ("int", int), ("float", float), ("str", text), ("binary", bytes),
    ("timestamp", moment), ("merge", merge), ("value", standIn), ("seq", sequence), ("map", mapping),
    ("set", set), ("pairs", pairs), ("omap", pairs)]

/-- The tag of a full name. -/
def ofName (name : String) : Tag :=
  ((known.map fun (ending, tag) => (namespaceName ++ ending, tag)).lookup name).getD unknown

/-- The spellings of a truth value. -/
def boolWords : List String :=
  ["yes", "Yes", "YES", "no", "No", "NO", "true", "True", "TRUE", "false", "False", "FALSE",
    "on", "On", "ON", "off", "Off", "OFF"]

/-- The spellings of nothing. -/
def nullWords : List String := ["~", "null", "Null", "NULL"]

/-- A decimal digit or an underscore. -/
def isDigitOrBar (c : Char) : Bool := c.isDigit || c == '_'

/-- Whether a list is not empty and all of it is of a class. -/
def someOf (keep : Char → Bool) (cs : List Char) : Bool := !cs.isEmpty && cs.all keep

/-- The rest behind a sign, if there is one. -/
def unsigned : List Char → List Char
  | '+' :: rest => rest
  | '-' :: rest => rest
  | cs => cs

/-- A text at its separators. -/
def pieces (separator : Char) : List Char → List (List Char)
  | [] => [[]]
  | c :: rest =>
    if c = separator then [] :: pieces separator rest
    else match pieces separator rest with
      | [] => [[c]]
      | piece :: more => (c :: piece) :: more

/-- Digits with underscores behind the first one. -/
def startsWithDigit : List Char → Bool
  | [] => false
  | c :: rest => c.isDigit && rest.all isDigitOrBar

/-- A number below sixty. -/
def isSixtieth : List Char → Bool
  | [c] => c.isDigit
  | [c, d] => '0' ≤ c && c ≤ '5' && d.isDigit
  | _ => false

/-- Digits with further ones to the base sixty behind colons. -/
def isSexagesimal (cs : List Char) : Bool :=
  match pieces ':' cs with
  | whole :: part :: more => startsWithDigit whole && (part :: more).all isSixtieth
  | _ => false

/-- Nothing, or an exponent with its sign. -/
def isExponent : List Char → Bool
  | [] => true
  | mark :: sign :: digits =>
    (mark == 'e' || mark == 'E') && (sign == '+' || sign == '-') && someOf Char.isDigit digits
  | _ => false

/-- A fraction behind its point: digits and underscores, and perhaps an exponent. -/
def isFraction (cs : List Char) : Bool := isExponent (cs.dropWhile isDigitOrBar)

/-- Whether a plain text is a number with a point. -/
def isFloat (cs : List Char) : Bool :=
  let magnitude := unsigned cs
  let (whole, rest) := magnitude.span (· != '.')
  let named (words : List String) (found : List Char) : Bool := words.contains (String.ofList found)
  let startsFraction : Bool := match cs with
    | '.' :: digit :: more => digit.isDigit && isFraction more
    | _ => false
  let withPoint : Bool := match rest with
    | _ :: fraction =>
      (startsWithDigit whole && isFraction fraction) ||
        (isSexagesimal whole && fraction.all isDigitOrBar)
    | [] => false
  withPoint || startsFraction || named [".inf", ".Inf", ".INF"] magnitude ||
    named [".nan", ".NaN", ".NAN"] cs

/-- Whether a plain text is a whole number, to the base two, eight, ten, sixteen or sixty. -/
def isInt (cs : List Char) : Bool :=
  match unsigned cs with
  | ['0'] => true
  | '0' :: 'b' :: digits => someOf (fun c => c == '0' || c == '1' || c == '_') digits
  | '0' :: 'x' :: digits =>
    someOf (fun c => c.isDigit || ('a' ≤ c && c ≤ 'f') || ('A' ≤ c && c ≤ 'F') || c == '_') digits
  -- A leading zero means the base eight, in which eight and nine are no digits.
  | '0' :: digits => someOf (fun c => ('0' ≤ c && c ≤ '7') || c == '_') digits
  | magnitude => startsWithDigit magnitude || isSexagesimal magnitude

end Tag

/-- A run of digits within bounds on its length, and what follows it. -/
def digitRun? (least most : Nat) (cs : List Char) : Option (List Char × List Char) :=
  let found := (cs.take most).takeWhile Char.isDigit
  if least ≤ found.length then some (found, cs.drop found.length) else none

/-- What follows a character that has to come next. -/
def expect? (c : Char) : List Char → Option (List Char)
  | d :: rest => if c = d then some rest else none
  | [] => none

/-- The parts of a written moment, as digits. -/
structure MomentParts where
  year : List Char
  month : List Char
  day : List Char
  /-- The hour, minute, second and fraction, if there is a time of day. -/
  time : Option (List Char × List Char × List Char × List Char) := none
  /-- The offset: none if it is not told; else whether it is west, its hours and its minutes. -/
  offset : Option (Bool × List Char × List Char) := none
  deriving DecidableEq, Repr

namespace MomentParts

/-- The offset at the end of a moment. -/
def offset? (cs : List Char) : Option (Option (Bool × List Char × List Char)) :=
  match cs.dropWhile fun c => c == ' ' || c == '\t' with
  | [] => if cs.isEmpty then some none else none
  | ['Z'] => some (some (false, ['0'], []))
  | sign :: rest => do
    if sign ≠ '+' ∧ sign ≠ '-' then failure
    let (hours, rest) ← digitRun? 1 2 rest
    match rest with
    | [] => return some (sign == '-', hours, [])
    | ':' :: more =>
      let (minutes, rest) ← digitRun? 2 2 more
      if rest.isEmpty then return some (sign == '-', hours, minutes) else failure
    | _ => failure

/-- What follows the mark between date and time: the letter T, or blanks. -/
def behindDate? : List Char → Option (List Char)
  | [] => none
  | c :: rest =>
    if c = 'T' ∨ c = 't' then some rest
    else if c = ' ' ∨ c = '\t' then some (rest.dropWhile fun c => c == ' ' || c == '\t')
    else none

/-- The parts of a moment written out: a date, or a date with a time of day and perhaps an offset. -/
def ofText? (cs : List Char) : Option MomentParts := do
  let (year, cs) ← digitRun? 4 4 cs
  let (month, cs) ← digitRun? 1 2 (← expect? '-' cs)
  let (day, cs) ← digitRun? 1 2 (← expect? '-' cs)
  if cs.isEmpty then return { year, month, day }
  let (hour, cs) ← digitRun? 1 2 (← behindDate? cs)
  let (minute, cs) ← digitRun? 2 2 (← expect? ':' cs)
  let (second, cs) ← digitRun? 2 2 (← expect? ':' cs)
  let (fraction, cs) := match cs with
    | '.' :: more => more.span Char.isDigit
    | more => ([], more)
  return { year, month, day, time := some (hour, minute, second, fraction), offset := ← offset? cs }

/-- Whether a date alone is written at full width; one with a time need not be. -/
def isPlain (parts : MomentParts) : Bool :=
  parts.time.isSome || (parts.month.length == 2 && parts.day.length == 2)

end MomentParts

/-- The tag of a plain text. A line end behind it does not count. -/
def Tag.ofPlain (text : String) : Tag :=
  if text.isEmpty then .null
  else
    let cs := text.toList
    let cs := if cs.getLast? = some '\n' then cs.dropLast else cs
    let word := String.ofList cs
    if Tag.boolWords.contains word then .bool
    else if Tag.isFloat cs then .float
    else if Tag.isInt cs then .int
    else if word = "<<" then .merge
    else if Tag.nullWords.contains word then .null
    else if (MomentParts.ofText? cs).any (·.isPlain) then .moment
    else if word = "=" then .standIn
    else .text

end Issuance.Yaml
