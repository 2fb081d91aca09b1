/-! A place in a YAML text: what is still to be read, and the line and column reached. -/

namespace Issuance.Yaml

/-- A character that ends a line. Carriage returns are gone before a text is read. -/
def isBreak (c : Char) : Bool := c == '\n' || c == '\x85' || c == '\u2028' || c == '\u2029'

/-- A character that sets words apart. -/
def isGap (c : Char) : Bool := c == ' ' || c == '\t' || isBreak c

/-- Whether a place is at a gap or at the end of the text. -/
def gapOrEnd : Option Char → Bool
  | none => true
  | some c => isGap c

/-- Whether a place is at the end of a line, or of the text. -/
def breakOrEnd : Option Char → Bool
  | none => true
  | some c => isBreak c

/-- Whether a place is at a space or at the end of a line. -/
def spaceOrEnd : Option Char → Bool
  | none => true
  | some c => c == ' ' || isBreak c

/-- A place in a text. -/
structure Cursor where
  rest : List Char
  index : Nat := 0
  line : Nat := 0
  column : Nat := 0
  deriving Repr

namespace Cursor

/-- The character at the place. -/
def peek (cursor : Cursor) : Option Char := cursor.rest.head?

/-- The character some places further on. -/
def ahead (cursor : Cursor) (count : Nat) : Option Char := cursor.rest[count]?

/-- The place behind the next character; a mark of byte order takes no column. -/
def step (cursor : Cursor) : Cursor :=
  match cursor.rest with
  | [] => cursor
  | c :: rest =>
    if isBreak c then ⟨rest, cursor.index + 1, cursor.line + 1, 0⟩
    else ⟨rest, cursor.index + 1, cursor.line, cursor.column + (if c = '\uFEFF' then 0 else 1)⟩

/-- The place a number of characters further on. -/
def forward (cursor : Cursor) : Nat → Cursor
  | 0 => cursor
  | count + 1 => cursor.step.forward count

/-- The characters of a class that come next, and the place behind them. -/
def span (cursor : Cursor) (keep : Char → Bool) : List Char × Cursor :=
  let found := cursor.rest.takeWhile keep
  (found, cursor.forward found.length)

/-- The place behind the characters of a class that come next. -/
def skip (cursor : Cursor) (drop : Char → Bool) : Cursor := (cursor.span drop).2

/-- The line end that comes next, as it is kept in a text, and the place behind it. -/
def lineBreak? (cursor : Cursor) : Option (Char × Cursor) :=
  match cursor.peek with
  | some c => if isBreak c then some (if c = '\x85' then '\n' else c, cursor.step) else none
  | none => none

/-- Whether a line of three hyphens or three points starts here. -/
def atSeparator (cursor : Cursor) : Bool :=
  (cursor.rest.take 3 == ['-', '-', '-'] || cursor.rest.take 3 == ['.', '.', '.']) &&
    gapOrEnd (cursor.ahead 3)

end Cursor

end Issuance.Yaml
