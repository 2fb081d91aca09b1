import Issuance.Schema.Fault
import Issuance.Value
import Issuance.Number.Numeral
import Issuance.Text.Blank
import Issuance.Text.Case
import Issuance.Time.Reader

/-! Checks that turn free-form data into typed values, lenient where a value has one clear meaning. -/

namespace Issuance

/-- A check of a piece of data. -/
abbrev Check (α : Type) := Value → Validated α

namespace Check

variable {α : Type}

/-- Any data at all. -/
def anything : Check Value := .valid

/-- A text. -/
def text : Check String
  | .text s => .valid s
  | _ => .fault .notText

/-- A text to be kept secret, given openly or as a secret. -/
def secret : Check String
  | .text s => .valid s
  | .secret s => .valid s
  | _ => .fault .notText

/-- The longest text that is read as a whole number. -/
def integerTextLimit : Nat := 4300

/-- Digits without the zeros in front, nor the underscores among those; one character is always left. -/
def withoutZeros (digits : List Char) : List Char :=
  match digits with
  | '0' :: rest =>
    match rest.dropWhile fun c => c == '0' || c == '_' with
    | [] => digits.drop (digits.length - 1)
    | significant => significant
  | _ => digits

/-- The whole number a text spells: a sign, digits with single underscores between them, a fraction of zeros. -/
def integerOfText? (s : String) : Option Int := do
  let (negative, cs) := Numeral.sign (Text.trimList Text.isWhiteSpace s.toList)
  let (whole, fraction) := cs.span (· != '.')
  let digits ← Numeral.withoutUnderscores? (withoutZeros whole)
  let exact : Bool := match fraction with
    | [] => true
    | _ :: zeros => !zeros.isEmpty && zeros.all (· == '0')
  -- A point is allowed where nothing but zeros stand behind it.
  if Numeral.isDigits digits ∧ exact then return Numeral.signed negative (Numeral.value digits)
  else none

/-- A whole number, or a boolean, double or text that stands for one. -/
def integer : Check Int
  | .int n => .valid n
  | .bool b => .valid (if b then 1 else 0)
  | .float x =>
    if !x.isFinite then .fault .notFinite
    else match x.toInt? with
      | none => .fault .integerFraction
      | some n => if n.natAbs < Nat.pow 2 63 then .valid n else .fault .integerRange
  | .text s =>
    if integerTextLimit < s.utf8ByteSize then .fault .integerRange
    else match integerOfText? s with
      | some n => .valid n
      | none => .fault .integerText
  | _ => .fault .notInteger

/-- A whole number with a least value. -/
def integerFrom (least : Int) : Check Int := fun value =>
  (integer value).andThen fun n => if n < least then .fault .belowMinimum else .valid n

/-- The double a text spells, with white space around it or underscores inside. -/
def numberOfText? (s : String) : Option Double :=
  -- Underscores are only looked past where there is no white space around.
  (Numeral.double? (Text.trimList Text.isWhiteSpace s.toList)).or
    ((Numeral.withoutUnderscores? s.toList).bind Numeral.double?)

/-- A double, or a whole number, boolean or text that stands for one. -/
def number : Check Double
  | .float x => .valid x
  | .int n =>
    let x := Double.ofInt n
    if x.isFinite then .valid x else .fault .notNumber
  | .bool b => .valid (Double.ofInt (if b then 1 else 0))
  | .text s =>
    match numberOfText? s with
    | some x => .valid x
    | none => .fault .numberText
  | _ => .fault .notNumber

/-- The spellings of false. -/
def falseWords : List String := ["0", "off", "f", "false", "n", "no"]

/-- The spellings of true. -/
def trueWords : List String := ["1", "on", "t", "true", "y", "yes"]

/-- A boolean, or a number or text that stands for one. -/
def boolean : Check Bool
  | .bool b => .valid b
  | .int n =>
    if n = 0 then .valid false else if n = 1 then .valid true
    else if n.natAbs < Nat.pow 2 63 then .fault .booleanText else .fault .notBoolean
  | .float x =>
    match x.toInt? with
    | some 0 => .valid false
    | some 1 => .valid true
    | _ => .fault .notBoolean
  | .text s =>
    let word := String.ofList (s.toList.map Char.toLower)
    if falseWords.contains word then .valid false
    else if trueWords.contains word then .valid true
    else .fault .booleanText
  | _ => .fault .notBoolean

/-- One of a fixed set of words, spelled exactly. -/
def choice (words : List (String × α)) : Check α
  | .text s =>
    match words.lookup s with
    | some meaning => .valid meaning
    | none => .fault .notChoice
  | _ => .fault .notChoice

/-- A moment of the calendar, which has no year zero. -/
def moment : Check Moment
  | .text s =>
    match Moment.ofText? s with
    | none => .fault .momentText
    | some found => if found.year = 0 then .fault .momentRange else .valid found
  | .int n =>
    if Nat.pow 2 63 ≤ n.natAbs then .fault .notMoment
    else match Moment.ofCount? n 0 with
      | some found => .valid found
      | none => .fault .momentRange
  | .float x =>
    match Moment.ofDouble? x with
    | some found => .valid found
    | none => .fault .momentRange
  | _ => .fault .notMoment

/-- Null, or what a check accepts. -/
def optional (check : Check α) : Check (Option α)
  | .null => .valid none
  | value => (check value).map some

/-- The items of a list from a position on. -/
def itemsFrom (check : Check α) (position : Nat) : List Value → Validated (List α)
  | [] => .valid []
  | item :: rest =>
    List.cons <$> (check item).inside (.index position) <*> itemsFrom check (position + 1) rest

/-- A list of items that each pass a check. -/
def list (check : Check α) : Check (List α)
  | .list items => itemsFrom check 0 items
  | _ => .fault .notList

/-- A list that is not empty. -/
def nonemptyList (check : Check α) : Check (List α) := fun value =>
  (list check value).andThen fun items =>
    if items.isEmpty then .fault .tooShort else .valid items

/-- The members of a mapping whose values each pass a check. -/
def members (check : Check α) : Members → Validated (List (String × α))
  | [] => .valid []
  | (key, value) :: rest =>
    (fun checked more => (key, checked) :: more) <$> (check value).inside (.key key) <*>
      members check rest

/-- A mapping from texts to values that each pass a check. -/
def mapping (check : Check α) : Check (List (String × α))
  | .record found => members check found
  | _ => .fault .notMapping

/-- A record, checked member by member. -/
def record (check : Members → Validated α) : Check α
  | .record found => check found
  | _ => .fault .notRecord

end Check

/-- The spellings under which a member may be given, the first of which wins. -/
structure Field where
  name : String
  otherName : Option String := none

namespace Field

variable {α : Type}

/-- The spelling that is there and the value under it. -/
def find? (field : Field) (members : Members) : Option (String × Value) :=
  match members.get? field.name with
  | some value => some (field.name, value)
  | none => field.otherName.bind fun name => (members.get? name).map (name, ·)

/-- The checked value of a member; what stands in for one that is missing. -/
def orElse (field : Field) (check : Check α) (absent : Validated α) (members : Members) : Validated α :=
  match field.find? members with
  | some (name, value) => (check value).inside (.key name)
  | none => absent

/-- A member that has to be there. -/
def required (field : Field) (check : Check α) (members : Members) : Validated α :=
  field.orElse check ((Validated.fault .missing).inside (.key field.name)) members

/-- A member with a value for when it is missing. -/
def withDefault (field : Field) (default : α) (check : Check α) (members : Members) : Validated α :=
  field.orElse check (.valid default) members

/-- A member that may be missing or null. -/
def optional (field : Field) (check : Check α) (members : Members) : Validated (Option α) :=
  field.withDefault none (.optional check) members

end Field

/-- A member known by one name. -/
def field (name : String) : Field := ⟨name, none⟩

/-- A member known by its name on the wire, and by another. -/
def fieldOr (name otherName : String) : Field := ⟨name, some otherName⟩

end Issuance
