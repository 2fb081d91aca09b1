import Issuance.Number.Shortest
import Issuance.Text.Hex
import Issuance.Yaml.Cursor
import Issuance.Yaml.Datum
import Issuance.Yaml.Tag

/-!
Writing a YAML mapping, an entry a line. A text is plain if it then reads back as that text, else
in single quotes if it has only printed ASCII characters, else in double quotes; past the eightieth
column it goes on, indented, on a new line.
-/

namespace Issuance.Yaml

/-- A value without parts. -/
inductive Leaf where
  | text (s : String)
  | int (n : Int)
  | float (x : Double)
  | bool (b : Bool)
  deriving DecidableEq

namespace Leaf

/-- A value as a piece of data. -/
def datum : Leaf → Datum
  | .text s => .text s
  | .int n => .int n
  | .float x => .float x
  | .bool b => .bool b

/-- The column past which a text is folded. -/
def width : Nat := 80

/-- The column at which a folded text goes on. -/
def indent : Nat := 2

/-- A new line and the indentation of a folded text. -/
def newLine : List Char := '\n' :: List.replicate indent ' '

/-- A character that is only written between double quotes. -/
def isSpecial (c : Char) : Bool := c != '\n' && !(0x20 ≤ c.toNat && c.toNat ≤ 0x7E)

/-- Whether two characters stand side by side somewhere. -/
def hasPair (first second : Char) (cs : List Char) : Bool := (cs.zip cs.tail).contains (first, second)

/-- Whether a text starts as only marks of YAML's own do. -/
def startsMarked : List Char → Bool
  | [] => false
  | c :: rest =>
    "#,[]\x7b\x7d&*!|>'\"%@\x60".contains c || ("?:-".contains c && gapOrEnd rest.head?) ||
      (c :: rest.take 2 == ['-', '-', '-']) || (c :: rest.take 2 == ['.', '.', '.'])

/-- Whether a colon before a gap, or a hash behind one, stands inside a text. -/
def holdsMark : List Char → Bool
  | c :: d :: rest =>
    (d == ':' && gapOrEnd rest.head?) || (d == '#' && isGap c) || holdsMark (d :: rest)
  | _ => false

/-- Whether a text may stand without quotes. -/
def mayBePlain (s : String) : Bool :=
  let cs := s.toList
  !cs.any (fun c => isSpecial c || c == '\n') && cs.head? != some ' ' && cs.getLast? != some ' ' &&
    !startsMarked cs && !holdsMark cs && decide (Tag.ofPlain s = .text)

/-- Whether a text may stand in single quotes. -/
def mayBeSingle (cs : List Char) : Bool :=
  !cs.any isSpecial && !hasPair ' ' '\n' cs && !hasPair '\n' ' ' cs

/-- Whether a character is a space, a line end, or neither. -/
def kindOf (c : Char) : Nat := if c = ' ' then 0 else if c = '\n' then 1 else 2

/-- A text in runs of spaces, of line ends, and of all else. -/
def runs (cs : List Char) : List (List Char) := cs.splitBy fun a b => kindOf a == kindOf b

/-- Runs from a column on, where a single space past the last column becomes a new line. -/
def plain (column : Nat) : List (List Char) → List Char
  | [] => []
  | run :: rest =>
    if run = [' '] ∧ width < column then newLine ++ plain indent rest
    else run ++ plain (column + run.length) rest

/-- A run between single quotes, where quotes are written twice. -/
def doubledQuotes (run : List Char) : List Char :=
  run.flatMap fun c => if c = '\'' then ['\'', '\''] else [c]

/-- Runs within single quotes from a column on. Line ends are one more than they stand for. -/
def single (column : Nat) (first : Bool) : List (List Char) → List Char
  | [] => []
  | run :: rest =>
    -- A line end in the text is an empty line here, for a single one would read as a space.
    if run.head? = some '\n' then run ++ newLine ++ single indent false rest
    else if run = [' '] ∧ width < column ∧ !first ∧ !rest.isEmpty then
      newLine ++ single indent false rest
    else
      let written := doubledQuotes run
      written ++ single (column + written.length) false rest

/-- The characters that are a letter behind a backslash. -/
def letters : List (Char × Char) :=
  [('\x00', '0'), ('\x07', 'a'), ('\x08', 'b'), ('\t', 't'), ('\n', 'n'), ('\x0b', 'v'), ('\x0c', 'f'),
    ('\r', 'r'), ('\x1b', 'e'), ('"', '"'), ('\\', '\\'), ('\x85', 'N'), ('\xA0', '_'),
    ('\u2028', 'L'), ('\u2029', 'P')]

/-- The escape of a character, if it needs one within double quotes. -/
def escape? (c : Char) : Option (List Char) :=
  if 0x20 ≤ c.toNat ∧ c.toNat ≤ 0x7E ∧ c ≠ '"' ∧ c ≠ '\\' then none
  else match letters.lookup c with
    | some letter => some ['\\', letter]
    | none =>
      let (mark, digits) :=
        if c.toNat ≤ 0xFF then ('x', 2) else if c.toNat ≤ 0xFFFF then ('u', 4) else ('U', 8)
      some ('\\' :: mark :: (Text.hexFixed digits c.toNat).map Char.toUpper)

/-- A fold within double quotes: a backslash, a new line, and a backslash before a space that follows. -/
def fold (next : Option Char) : List Char × Nat :=
  if next = some ' ' then ('\\' :: newLine ++ ['\\'], indent + 1) else ('\\' :: newLine, indent)

/-- A text within double quotes from a column on. It is folded before a space, or behind an escape. -/
def double (column : Nat) (first behindEscape : Bool) : List Char → List Char
  | [] => []
  | c :: rest =>
    let inside := !first && !rest.isEmpty
    match escape? c with
    | some written =>
      let column := column + written.length
      if inside ∧ width + 1 < column then
        let (broken, column) := fold rest.head?
        written ++ broken ++ double column false true rest
      else written ++ double column false true rest
    | none =>
      if inside ∧ (c = ' ' ∨ behindEscape) ∧ width < column then
        let (broken, column) := fold (some c)
        broken ++ c :: double (column + 1) false false rest
      else c :: double (column + 1) false false rest

/-- A text that starts behind a space at a column. -/
def ofText (column : Nat) (s : String) : List Char :=
  let cs := s.toList
  -- The first form that keeps the text is taken.
  if mayBePlain s then plain (column + 1) (runs cs)
  else if mayBeSingle cs then '\'' :: single (column + 2) true (runs cs) ++ ['\'']
  else '"' :: double (column + 2) true false cs ++ ['"']

/-- The text of a double, always with a point. -/
def ofDouble (x : Double) : List Char :=
  match x with
  | .notANumber => ".nan".toList
  | .infinite negative => (if negative then "-.inf" else ".inf").toList
  | .finite .. =>
    let (mantissa, exponent) := x.text.toList.span (· != 'e')
    -- Without a point the text would read back as no number at all.
    if mantissa.contains '.' then mantissa ++ exponent else mantissa ++ '.' :: '0' :: exponent

/-- A value that starts behind a space at a column. -/
def written (column : Nat) : Leaf → List Char
  | .text s => ofText column s
  | .int n => (toString n).toList
  | .float x => ofDouble x
  | .bool b => (if b then "true" else "false").toList

end Leaf

/-- A mapping from plain keys to values, an entry a line. -/
def render (entries : List (String × Leaf)) : String :=
  String.ofList <| entries.flatMap fun (key, leaf) =>
    key.toList ++ ':' :: ' ' :: leaf.written (key.length + 1) ++ ['\n']

/-- A mapping that is written; none if a whole number in it has more digits than can be written. -/
def render? (entries : List (String × Leaf)) : Option String :=
  if entries.all (·.2.datum.isWritable) then some (render entries) else none

end Issuance.Yaml
