import Issuance.Platform
import Issuance.Text.Utf8
import Issuance.Text.Literal
import Issuance.Time.Moment

/-! The data a YAML text can hold, and how it is written into a message or read as a text. -/

namespace Issuance.Yaml

/-- A piece of data. -/
inductive Datum where
  | null
  | bool (b : Bool)
  | int (n : Int)
  | float (x : Double)
  | text (s : String)
  | bytes (found : Bytes)
  | date (day : Moment)
  | moment (found : Moment)
  | list (items : List Datum)
  | set (items : List Datum)
  /-- Pairs in order, where a first part may come more than once. -/
  | pairs (entries : List (Datum × Datum))
  | mapping (entries : List (Datum × Datum))
  /-- The list, or else the mapping, that it stands in itself. -/
  | loop (isList : Bool)
  deriving Inhabited

namespace Datum

/-- Whether data may be a key: what has no parts. -/
def isKey : Datum → Bool
  | .list _ | .set _ | .pairs _ | .mapping _ | .loop _ => false
  | _ => true

/-- The number that data is equal to; a truth value is one or zero. -/
def number? : Datum → Option (Int ⊕ Double)
  | .bool b => some (.inl (if b then 1 else 0))
  | .int n => some (.inl n)
  | .float x => some (match x.toInt? with
    | some n => .inl n
    | none => .inr x)
  | _ => none

/-- Whether two keys are the same: numbers by their value, all else by kind and value. -/
def sameKey (a b : Datum) : Bool :=
  match a.number?, b.number? with
  | some x, some y => decide (x = y)
  | none, none =>
    match a, b with
    | .null, .null => true
    | .text s, .text t => s == t
    | .bytes s, .bytes t => s == t
    | .date s, .date t => decide (s = t)
    | .moment s, .moment t => decide (s = t)
    | _, _ => false
  | _, _ => false

/-- Sets the value of a key: in its place, under its first spelling, if it is there, else at the end. -/
def put (key value : Datum) : List (Datum × Datum) → List (Datum × Datum)
  | [] => [(key, value)]
  -- Keys of different kinds can be the same, and then the spelling that came first stays.
  | (k, v) :: rest => if sameKey k key then (k, value) :: rest else (k, v) :: put key value rest

/-- The literal of one byte between quotes of the given kind. -/
def byteLiteral (quote : Char) (byte : UInt8) : List Char :=
  let c := Char.ofNat byte.toNat
  if c = quote ∨ c = '\\' then ['\\', c]
  else if c = '\n' then ['\\', 'n']
  else if c = '\r' then ['\\', 'r']
  else if c = '\t' then ['\\', 't']
  else if 32 ≤ byte.toNat ∧ byte.toNat < 127 then [c]
  else '\\' :: 'x' :: Text.hexFixed 2 byte.toNat

/-- The literal of a byte string. -/
def bytesLiteral (bytes : Bytes) : String :=
  let quote := if bytes.contains 39 && !bytes.contains 34 then '"' else '\''
  String.ofList ('b' :: quote :: bytes.flatMap (byteLiteral quote) ++ [quote])

/-- A call with its arguments. -/
def call (name : String) (arguments : List String) : String :=
  name ++ "(" ++ Literal.separated arguments ++ ")"

/-- The literal of an offset from UTC. -/
def offsetLiteral (offset : Int) : String :=
  if offset = 0 then "datetime.timezone.utc"
  else
    -- An offset to the west is a day back and the rest of it forward.
    let rest := offset.fmod 86400000000
    let parts := [("days=", offset.fdiv 86400000000), ("seconds=", rest / 1000000),
      ("microseconds=", rest % 1000000)]
    call "datetime.timezone" [call "datetime.timedelta"
      ((parts.filter (·.2 ≠ 0)).map fun (name, count) => name ++ toString count)]

/-- The literal of a day. -/
def dateLiteral (day : Moment) : String :=
  call "datetime.date" [toString day.year, toString day.month, toString day.day]

/-- The literal of a moment, its seconds and microseconds left out where nothing is behind them. -/
def momentLiteral (moment : Moment) : String :=
  let fine :=
    if moment.microsecond ≠ 0 then [moment.second, moment.microsecond]
    else if moment.second ≠ 0 then [moment.second] else []
  let numbers := [moment.year, moment.month, moment.day, moment.hour, moment.minute] ++ fine
  let offset := match moment.offset with
    | none => []
    | some offset => ["tzinfo=" ++ offsetLiteral offset]
  call "datetime.datetime" (numbers.map toString ++ offset)

/-- The literal of a set; an empty one is a call, for empty braces are a mapping. -/
def setLiteral (items : List String) : String :=
  if items.isEmpty then "set()" else "\x7b" ++ Literal.separated items ++ "\x7d"

mutual

/-- The literal of a piece of data. -/
def literal : Datum → String
  | .null => Literal.none
  | .bool b => Literal.ofBool b
  | .int n => toString n
  | .float x => x.text
  | .text s => Text.quoted s
  | .bytes found => bytesLiteral found
  | .date day => dateLiteral day
  | .moment found => momentLiteral found
  | .list items => Literal.ofList (literals items)
  | .set items => setLiteral (literals items)
  | .pairs entries =>
    Literal.ofList ((entryLiterals entries).map fun (first, second) => call "" [first, second])
  | .mapping entries => Literal.ofMapping (entryLiterals entries)
  | .loop isList => if isList then "[...]" else "\x7b...\x7d"

/-- The literals of several pieces of data. -/
def literals : List Datum → List String
  | [] => []
  | item :: rest => literal item :: literals rest

/-- The literals of pairs of data. -/
def entryLiterals : List (Datum × Datum) → List (String × String)
  | [] => []
  | (key, value) :: rest => (literal key, literal value) :: entryLiterals rest

end

/-- Data as a text: a text is itself, a moment has a space between date and time, all else is its literal. -/
def asText : Datum → String
  | .text s => s
  | .date day => String.ofList day.dateText
  | .moment found =>
    String.ofList (found.dateText ++ ' ' :: found.timeText ++
      (found.offset.map Moment.offsetText).getD [])
  | datum => datum.literal

mutual

/-- Whether every whole number within data can be written. -/
def isWritable : Datum → Bool
  | .int n => !Platform.isTooLong n
  | .list items | .set items => areWritable items
  | .pairs entries | .mapping entries => entriesWritable entries
  | _ => true

/-- Whether every whole number within several pieces of data can be written. -/
def areWritable : List Datum → Bool
  | [] => true
  | item :: rest => isWritable item && areWritable rest

/-- Whether every whole number within pairs of data can be written. -/
def entriesWritable : List (Datum × Datum) → Bool
  | [] => true
  | (key, value) :: rest => isWritable key && isWritable value && entriesWritable rest

end

/-- Data as a check takes it. What is neither a text, a number nor a truth value is like a list to it. -/
def asValue : Datum → Value
  | .null => .null
  | .bool b => .bool b
  | .int n => .int n
  | .float x => .float x
  | .text s => .text s
  | .bytes found => (Utf8.decode? found).elim (.list []) .text
  | _ => .list []

end Datum

end Issuance.Yaml
