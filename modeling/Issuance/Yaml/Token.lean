import Issuance.Text.Hex
import Issuance.Text.Utf8
import Issuance.Number.Numeral
import Issuance.Yaml.Cursor

/-! The tokens of a YAML text. Indentation and simple keys become tokens of their own. -/

namespace Issuance.Yaml

/-- Why a YAML text gives no data. -/
inductive Error where
  /-- The text is not well formed, or has data of a kind that is not known. -/
  | malformed
  /-- A number, date or character out of its range. -/
  | outOfRange
  /-- Nothing where a number is said to stand. -/
  | noNumber
  /-- A word that is said to be a truth value and is none. -/
  | noTruth
  /-- A text that is said to be a moment and is none. -/
  | noMoment
  deriving DecidableEq, Repr

/-- The outcome of a step. -/
abbrev Outcome (α : Type) := Except Error α

/-- A token. -/
inductive Token where
  | version (major : Nat)
  | tagHandle (handle : String) (meaning : String)
  | otherDirective
  | documentStart
  | documentEnd
  | blockSequenceStart
  | blockMappingStart
  | blockEnd
  | flowSequenceStart
  | flowSequenceEnd
  | flowMappingStart
  | flowMappingEnd
  | blockEntry
  | flowEntry
  | key
  | value
  | reference (name : String)
  | anchor (name : String)
  | tag (handle : Option String) (suffix : String)
  | scalar (text : String) (plain : Bool)
  deriving DecidableEq, Repr

/-- A token that may turn out to be a key, once a colon follows it on its line. -/
structure SimpleKey where
  /-- How many tokens stand before it. -/
  position : Nat
  /-- Whether nothing but a key can stand there. -/
  required : Bool
  index : Nat
  line : Nat
  column : Nat

/-- How far the tokens of a text have been read. -/
structure Scanner where
  cursor : Cursor
  tokens : List Token := []
  /-- How many brackets are open. -/
  depth : Nat := 0
  /-- The column of the innermost block; before the first one. -/
  indent : Int := -1
  indents : List Int := []
  /-- Whether a simple key may start here. -/
  keyAllowed : Bool := true
  /-- The possible simple keys, by the depth they stand at. -/
  keys : List (Nat × SimpleKey) := []

/-- A letter, digit, hyphen or underscore. -/
def isWordChar (c : Char) : Bool := c.isAlphanum || c == '-' || c == '_'

/-- A character that stands for itself in the name of a tag. -/
def isUriChar (c : Char) : Bool := c.isAlphanum || "-;/?:@&=+$,_.!~*'()[]".contains c

namespace Cursor

/-- The place behind spaces and a comment at the end of a line, which have to be all there is. -/
def restOfLine (cursor : Cursor) : Outcome Cursor :=
  let cursor := cursor.skip (· == ' ')
  let cursor := if cursor.peek = some '#' then cursor.skip (!isBreak ·) else cursor
  if breakOrEnd cursor.peek then .ok ((cursor.lineBreak?.map (·.2)).getD cursor)
  else .error .malformed

/-- A word of letters, digits, hyphens and underscores. -/
def word (cursor : Cursor) : Outcome (String × Cursor) :=
  match cursor.span isWordChar with
  | ([], _) => .error .malformed
  | (found, cursor) => .ok (String.ofList found, cursor)

/-- Bytes written as percent escapes, which have to be text. -/
def escapes (cursor : Cursor) : Nat → Bytes → Outcome (List Char × Cursor)
  | 0, _ => .error .malformed
  | fuel + 1, bytes =>
    match cursor.rest with
    | '%' :: high :: low :: _ =>
      match Text.hexValue? high, Text.hexValue? low with
      | some high, some low =>
        (cursor.forward 3).escapes fuel (bytes ++ [UInt8.ofNat (16 * high + low)])
      | _, _ => .error .malformed
    | '%' :: _ => .error .malformed
    | _ =>
      match Utf8.decodeList? bytes with
      | some found => .ok (found, cursor)
      | none => .error .malformed

/-- The pieces of the name of a tag. -/
def uriPieces (cursor : Cursor) : Nat → Outcome (List Char × Cursor)
  | 0 => .error .malformed
  | fuel + 1 => do
    let (found, cursor) := cursor.span isUriChar
    if cursor.peek = some '%' then
      let (escaped, cursor) ← cursor.escapes (cursor.rest.length + 1) []
      let (more, cursor) ← cursor.uriPieces fuel
      return (found ++ escaped ++ more, cursor)
    else return (found, cursor)

/-- The name of a tag, which is not empty. -/
def uri (cursor : Cursor) : Outcome (String × Cursor) := do
  if !(cursor.peek.any fun c => isUriChar c || c == '%') then throw .malformed
  let (found, cursor) ← cursor.uriPieces (cursor.rest.length + 1)
  return (String.ofList found, cursor)

/-- The handle of a tag: an exclamation mark, or a word between two of them. -/
def handle (cursor : Cursor) : Outcome (String × Cursor) :=
  if cursor.peek ≠ some '!' then .error .malformed
  else
    let inner := cursor.step
    if inner.peek = some ' ' then .ok ("!", inner)
    else
      let (found, cursor) := inner.span isWordChar
      if cursor.peek = some '!' then .ok (String.ofList ('!' :: found ++ ['!']), cursor.step)
      else .error .malformed

/-- A directive behind its percent sign. -/
def directive (cursor : Cursor) : Outcome (Token × Cursor) := do
  let (name, cursor) ← cursor.word
  if !spaceOrEnd cursor.peek then throw .malformed
  if name = "YAML" then
    let (major, cursor) := (cursor.skip (· == ' ')).span Char.isDigit
    if major.isEmpty ∨ cursor.peek ≠ some '.' then throw .malformed
    let (minor, cursor) := cursor.step.span Char.isDigit
    if minor.isEmpty ∨ !spaceOrEnd cursor.peek then throw .malformed
    return (.version (Numeral.value major), ← cursor.restOfLine)
  else if name = "TAG" then
    let (handle, cursor) ← (cursor.skip (· == ' ')).handle
    if cursor.peek ≠ some ' ' then throw .malformed
    let (meaning, cursor) ← (cursor.skip (· == ' ')).uri
    if !spaceOrEnd cursor.peek then throw .malformed
    return (.tagHandle handle meaning, ← cursor.restOfLine)
  else return (.otherDirective, ← (cursor.skip (!isBreak ·)).restOfLine)

/-- The name of an anchor or alias, behind its mark. -/
def name (cursor : Cursor) : Outcome (String × Cursor) := do
  let (found, cursor) ← cursor.word
  if gapOrEnd cursor.peek || cursor.peek.any ("?:,]\x7d%@\x60".contains ·) then return (found, cursor)
  else throw .malformed

/-- Whether an exclamation mark stands before the next gap. -/
def hasHandle (cs : List Char) : Bool := (cs.takeWhile fun c => c != ' ' && !isBreak c).contains '!'

/-- A tag. -/
def tag (cursor : Cursor) : Outcome (Token × Cursor) := do
  let inner := cursor.step
  let (token, cursor) ←
    if inner.peek = some '<' then do
      let (found, cursor) ← inner.step.uri
      if cursor.peek ≠ some '>' then throw .malformed
      pure (Token.tag none found, cursor.step)
    else if gapOrEnd inner.peek then pure (Token.tag none "!", inner)
    else do
      let (handle, cursor) ← if hasHandle inner.rest then cursor.handle else pure ("!", inner)
      let (found, cursor) ← cursor.uri
      pure (Token.tag (some handle) found, cursor)
  if spaceOrEnd cursor.peek then return (token, cursor) else throw .malformed

/-- The rest of a line break in a text: none if it is the only one and folds into a space. -/
def folded (first : Char) (more : List Char) : List Char :=
  -- A single line feed is a space; of several the first one folds away; other line ends stay.
  if first ≠ '\n' then first :: more else if more.isEmpty then [' '] else more

/-- How many characters a word of a plain scalar takes. -/
def plainLength (inFlow : Bool) : List Char → Nat
  | [] => 0
  | c :: rest =>
    let colonEnds := gapOrEnd rest.head? || (inFlow && rest.head?.any (",[]\x7b\x7d".contains ·))
    if isGap c || (c == ':' && colonEnds) || (inFlow && ",?[]\x7b\x7d".contains c) then 0
    else plainLength inFlow rest + 1

/-- The line ends, with spaces around them, that come next; none before a separator of documents. -/
def plainBreaks (cursor : Cursor) : Nat → Option (List Char) × Cursor
  | 0 => (some [], cursor)
  | fuel + 1 =>
    match cursor.lineBreak? with
    | some (found, next) =>
      if next.atSeparator then (none, next)
      else
        let (more, cursor) := next.plainBreaks fuel
        (more.map (found :: ·), cursor)
    | none => if cursor.peek = some ' ' then cursor.step.plainBreaks fuel else (some [], cursor)

/-- What stands between two words of a plain scalar, and whether it crosses a line end. -/
def plainGap (cursor : Cursor) : List Char × Bool × Cursor :=
  let (spaces, cursor) := cursor.span (· == ' ')
  match cursor.lineBreak? with
  | none => (spaces, false, cursor)
  | some (first, cursor) =>
    if cursor.atSeparator then ([], true, cursor)
    else match cursor.plainBreaks (cursor.rest.length + 1) with
      | (none, cursor) => ([], true, cursor)
      | (some more, cursor) => (folded first more, true, cursor)

/-- The words of a plain scalar, behind what stands before the next one, and whether a simple key may follow. -/
def plainWords (inFlow : Bool) (indent : Int) (cursor : Cursor) (before : List Char) (keyAllowed : Bool) :
    Nat → List Char × Bool × Cursor
  | 0 => ([], keyAllowed, cursor)
  | fuel + 1 =>
    let length := if cursor.peek = some '#' then 0 else plainLength inFlow cursor.rest
    if length = 0 then ([], keyAllowed, cursor)
    else
      let word := before ++ cursor.rest.take length
      let (gap, crossed, cursor) := (cursor.forward length).plainGap
      -- A gap is only part of the scalar if another word follows it.
      if gap.isEmpty || cursor.peek == some '#' || (!inFlow && decide ((cursor.column : Int) < indent))
      then (word, crossed, cursor)
      else
        let (more, keyAllowed, cursor) := plainWords inFlow indent cursor gap crossed fuel
        (word ++ more, keyAllowed, cursor)

/-- The characters that a letter behind a backslash stands for. -/
def escapedChars : List (Char × Char) :=
  [('0', '\x00'), ('a', '\x07'), ('b', '\x08'), ('t', '\t'), ('\t', '\t'), ('n', '\n'), ('v', '\x0b'),
    ('f', '\x0c'), ('r', '\r'), ('e', '\x1b'), (' ', ' '), ('"', '"'), ('\\', '\\'), ('/', '/'),
    ('N', '\x85'), ('_', '\xA0'), ('L', '\u2028'), ('P', '\u2029')]

/-- How many hexadecimal digits follow a letter behind a backslash. -/
def escapeWidths : List (Char × Nat) := [('x', 2), ('u', 4), ('U', 8)]

/-- The line ends within quotes that come next, with blanks around them; no separator may be among them. -/
def quotedBreaks (cursor : Cursor) : Nat → Outcome (List Char × Cursor)
  | 0 => .ok ([], cursor)
  | fuel + 1 =>
    if cursor.atSeparator then .error .malformed
    else
      let cursor := cursor.skip fun c => c == ' ' || c == '\t'
      match cursor.lineBreak? with
      | none => .ok ([], cursor)
      | some (found, cursor) => do
        let (more, cursor) ← cursor.quotedBreaks fuel
        return (found :: more, cursor)

/-- What an escape stands for, behind its backslash. -/
def escape (cursor : Cursor) : Outcome (List Char × Cursor) :=
  match cursor.peek with
  | none => .error .malformed
  | some c =>
    match escapedChars.lookup c, escapeWidths.lookup c with
    | some meant, _ => .ok ([meant], cursor.step)
    | none, some width =>
      let digits := cursor.step.rest.take width
      if digits.length < width then .error .malformed
      else match Text.hexNumber? digits with
        | none => .error .malformed
        | some code =>
          if code.isValidChar then .ok ([Char.ofNat code], cursor.step.forward width)
          else .error .outOfRange
    | none, none =>
      match cursor.lineBreak? with
      | some (_, cursor) => cursor.quotedBreaks (cursor.rest.length + 1)
      | none => .error .malformed

/-- The text between quotes, behind the first one. -/
def quoted (double : Bool) (cursor : Cursor) : Nat → Outcome (List Char × Cursor)
  | 0 => .error .malformed
  | fuel + 1 =>
    match cursor.rest with
    | [] => .error .malformed
    | c :: rest =>
      if !double && c == '\'' && rest.head? == some '\'' then do
        let (more, cursor) ← quoted double (cursor.forward 2) fuel
        return ('\'' :: more, cursor)
      else if c == (if double then '"' else '\'') then .ok ([], cursor.step)
      else if double && c == '\\' then do
        let (found, cursor) ← cursor.step.escape
        let (more, cursor) ← quoted double cursor fuel
        return (found ++ more, cursor)
      else if isGap c then do
        let (blanks, cursor) := cursor.span fun c => c == ' ' || c == '\t'
        match cursor.lineBreak? with
        | none =>
          let (more, cursor) ← quoted double cursor fuel
          return (blanks ++ more, cursor)
        | some (first, cursor) =>
          let (breaks, cursor) ← cursor.quotedBreaks (cursor.rest.length + 1)
          let (more, cursor) ← quoted double cursor fuel
          return (folded first breaks ++ more, cursor)
      else do
        let (more, cursor) ← quoted double cursor.step fuel
        return (c :: more, cursor)

/-- What becomes of the line ends at the end of a block scalar. -/
inductive Chomping where
  | clip
  | strip
  | keep
  deriving DecidableEq, Repr

/-- The indicators behind the mark of a block scalar: the chomping, and the indentation if it is told. -/
def blockIndicators (cursor : Cursor) : Outcome (Chomping × Option Nat × Cursor) := do
  let chomping (cursor : Cursor) : Chomping × Cursor := match cursor.peek with
    | some '+' => (.keep, cursor.step)
    | some '-' => (.strip, cursor.step)
    | _ => (.clip, cursor)
  let indentation (cursor : Cursor) : Option Nat × Cursor := match cursor.peek with
    | some c => if c.isDigit then (some (c.toNat - '0'.toNat), cursor.step) else (none, cursor)
    | none => (none, cursor)
  let (chomp, cursor) := chomping cursor
  let (told, cursor) := indentation cursor
  -- The two indicators may stand in either order.
  let (chomp, cursor) := if chomp = .clip && told.isSome then chomping cursor else (chomp, cursor)
  if told = some 0 ∨ !spaceOrEnd cursor.peek then throw .malformed
  return (chomp, told, cursor)

/-- The empty lines before a block scalar's first line, and the greatest column reached in them. -/
def leadingLines (cursor : Cursor) (reached : Nat) : Nat → List Char × Nat × Cursor
  | 0 => ([], reached, cursor)
  | fuel + 1 =>
    match cursor.lineBreak? with
    | some (found, next) =>
      let (more, reached, cursor) := next.leadingLines reached fuel
      (found :: more, reached, cursor)
    | none =>
      if cursor.peek = some ' ' then cursor.step.leadingLines (max reached (cursor.column + 1)) fuel
      else ([], reached, cursor)

/-- The place behind the spaces that indent a line. -/
def indented (cursor : Cursor) (indent : Nat) : Cursor :=
  cursor.forward ((cursor.rest.take (indent - cursor.column)).takeWhile (· == ' ')).length

/-- The empty lines of a block scalar that come next. -/
def emptyLines (cursor : Cursor) (indent : Nat) : Nat → List Char × Cursor
  | 0 => ([], cursor)
  | fuel + 1 =>
    let cursor := cursor.indented indent
    match cursor.lineBreak? with
    | none => ([], cursor)
    | some (found, next) =>
      let (more, cursor) := next.emptyLines indent fuel
      (found :: more, cursor)

/-- The lines of a block scalar, behind the empty lines before the next one. -/
def blockLines (isFolded : Bool) (chomping : Chomping) (indent : Nat) (cursor : Cursor)
    (before : List Char) : Nat → List Char × Cursor
  | 0 => ([], cursor)
  | fuel + 1 =>
    let (line, next) := cursor.span (!isBreak ·)
    let (ending, next) := match next.lineBreak? with
      | some (found, next) => ([found], next)
      | none => ([], next)
    let (breaks, next) := next.emptyLines indent (next.rest.length + 1)
    let blank (c : Option Char) : Bool := c == some ' ' || c == some '\t'
    -- A line that is indented less ends the scalar.
    if next.column = indent ∧ next.peek.isSome then
      let joined :=
        -- A line that begins with a blank keeps the line ends on both its sides.
        if isFolded && ending == ['\n'] && !blank line.head? && !blank next.peek then
          (if breaks.isEmpty then [' '] else [])
        else ending
      let (more, cursor) := blockLines isFolded chomping indent next breaks fuel
      (before ++ line ++ joined ++ more, cursor)
    else
      (before ++ line ++ (if chomping = .strip then [] else ending) ++
        (if chomping = .keep then breaks else []), next)

/-- A block scalar behind its mark, within a block of the given indentation. -/
def blockScalar (isFolded : Bool) (outer : Int) (cursor : Cursor) : Outcome (List Char × Cursor) := do
  let (chomping, told, cursor) ← cursor.blockIndicators
  let cursor ← cursor.restOfLine
  let least := max 1 (outer + 1).toNat
  let fuel := cursor.rest.length + 1
  let (indent, breaks, cursor) := match told with
    | none =>
      let (breaks, reached, cursor) := cursor.leadingLines 0 fuel
      (max least reached, breaks, cursor)
    | some width =>
      let indent := least + width - 1
      let (breaks, cursor) := cursor.emptyLines indent fuel
      (indent, breaks, cursor)
  if cursor.column = indent ∧ cursor.peek.isSome then
    return blockLines isFolded chomping indent cursor breaks fuel
  else return (if chomping = .keep then breaks else [], cursor)

end Cursor

namespace Scanner

/-- Adds a token at the end. -/
def push (scanner : Scanner) (token : Token) : Scanner :=
  { scanner with tokens := scanner.tokens ++ [token] }

/-- Whether the scanner is within brackets, where indentation does not count. -/
def inFlow (scanner : Scanner) : Bool := scanner.depth != 0

/-- Goes on at a place. -/
def goTo (scanner : Scanner) (cursor : Cursor) : Scanner := { scanner with cursor }

/-- Passes over some characters. -/
def forward (scanner : Scanner) (count : Nat) : Scanner :=
  scanner.goTo (scanner.cursor.forward count)

/-- Forgets possible simple keys that are on an earlier line or too far back; none of them may be required. -/
def dropStaleKeys (scanner : Scanner) : Outcome Scanner :=
  -- A colon has to follow a simple key on its line, within 1024 characters.
  let isStale (key : SimpleKey) : Bool :=
    key.line != scanner.cursor.line || 1024 < scanner.cursor.index - key.index
  if scanner.keys.any fun (_, key) => isStale key && key.required then .error .malformed
  else .ok { scanner with keys := scanner.keys.filter fun (_, key) => !isStale key }

/-- Forgets the possible simple key at this depth, which may not be required. -/
def dropKey (scanner : Scanner) : Outcome Scanner :=
  if (scanner.keys.lookup scanner.depth).any (·.required) then .error .malformed
  else .ok { scanner with keys := scanner.keys.filter (·.1 != scanner.depth) }

/-- Notes that the next token may be a simple key. -/
def noteKey (scanner : Scanner) : Outcome Scanner :=
  if scanner.keyAllowed then do
    let cursor := scanner.cursor
    let key : SimpleKey := {
      position := scanner.tokens.length
      -- At the column of a block mapping nothing but its next key can stand.
      required := !scanner.inFlow && scanner.indent == cursor.column
      index := cursor.index
      line := cursor.line
      column := cursor.column }
    let scanner ← scanner.dropKey
    return { scanner with keys := (scanner.depth, key) :: scanner.keys }
  else .ok scanner

/-- Ends the blocks that are indented further than a column, given the indentations to go back to. -/
def unwindTo (column : Int) (indent : Int) (ends : List Token) : List Int → Int × List Int × List Token
  | [] => (indent, [], ends)
  | outer :: more =>
    if column < indent then unwindTo column outer (.blockEnd :: ends) more
    else (indent, outer :: more, ends)

/-- Ends the blocks that are indented further than a column; within brackets there are none to end. -/
def unwind (scanner : Scanner) (column : Int) : Scanner :=
  if scanner.inFlow then scanner
  else
    let (indent, indents, ends) := unwindTo column scanner.indent [] scanner.indents
    { scanner with indent, indents, tokens := scanner.tokens ++ ends }

/-- Starts a block at a column if it is indented further than the one around it; its token goes to a position. -/
def startBlock (scanner : Scanner) (column : Nat) (token : Token) (position : Nat) : Scanner :=
  if scanner.indent < column then
    { scanner with
      indents := scanner.indent :: scanner.indents
      indent := column
      tokens := scanner.tokens.take position ++ token :: scanner.tokens.drop position }
  else scanner

/-- Passes over spaces, comments and line ends; a simple key may start on a new line. -/
def skipGap (scanner : Scanner) : Nat → Scanner
  | 0 => scanner
  | fuel + 1 =>
    let cursor := scanner.cursor.skip (· == ' ')
    let cursor := if cursor.peek = some '#' then cursor.skip (!isBreak ·) else cursor
    match cursor.lineBreak? with
    | none => scanner.goTo cursor
    | some (_, cursor) =>
      { scanner with cursor, keyAllowed := scanner.keyAllowed || !scanner.inFlow }.skipGap fuel

/-- A token that stands alone on its line, outside every block. -/
def outsideBlocks (scanner : Scanner) : Outcome Scanner := do
  let scanner ← (scanner.unwind (-1)).dropKey
  return { scanner with keyAllowed := false }

/-- An opening bracket. -/
def openBracket (scanner : Scanner) (token : Token) : Outcome Scanner := do
  let scanner ← scanner.noteKey
  return { scanner with depth := scanner.depth + 1, keyAllowed := true }.forward 1 |>.push token

/-- A closing bracket, which needs an open one. -/
def closeBracket (scanner : Scanner) (token : Token) : Outcome Scanner := do
  let scanner ← scanner.dropKey
  if scanner.depth = 0 then throw .malformed
  return { scanner with depth := scanner.depth - 1, keyAllowed := false }.forward 1 |>.push token

/-- A hyphen that starts an item. -/
def blockEntry (scanner : Scanner) : Outcome Scanner := do
  if !scanner.inFlow && !scanner.keyAllowed then throw .malformed
  let scanner :=
    if scanner.inFlow then scanner
    else scanner.startBlock scanner.cursor.column .blockSequenceStart scanner.tokens.length
  let scanner ← { scanner with keyAllowed := true }.dropKey
  return (scanner.forward 1).push .blockEntry

/-- A question mark that starts a key. -/
def explicitKey (scanner : Scanner) : Outcome Scanner := do
  if !scanner.inFlow && !scanner.keyAllowed then throw .malformed
  let scanner :=
    if scanner.inFlow then scanner
    else scanner.startBlock scanner.cursor.column .blockMappingStart scanner.tokens.length
  let scanner ← { scanner with keyAllowed := !scanner.inFlow }.dropKey
  return (scanner.forward 1).push .key

/-- A colon that starts a value; what is a possible simple key becomes one. -/
def startValue (scanner : Scanner) : Outcome Scanner := do
  match scanner.keys.lookup scanner.depth with
  | some key =>
    let scanner := { scanner with
      keys := scanner.keys.filter (·.1 != scanner.depth)
      -- The mark of the key goes in front of the tokens that turn out to be it.
      tokens := scanner.tokens.take key.position ++ Token.key :: scanner.tokens.drop key.position
      keyAllowed := false }
    let scanner :=
      if scanner.inFlow then scanner
      else scanner.startBlock key.column .blockMappingStart key.position
    return (scanner.forward 1).push .value
  | none =>
    if !scanner.inFlow && !scanner.keyAllowed then throw .malformed
    let scanner :=
      if scanner.inFlow then scanner
      else scanner.startBlock scanner.cursor.column .blockMappingStart scanner.tokens.length
    let scanner ← { scanner with keyAllowed := !scanner.inFlow }.dropKey
    return (scanner.forward 1).push .value

/-- A token that may be a simple key, read at the place by the given step. -/
def keyLike (scanner : Scanner) (read : Cursor → Outcome (Token × Cursor)) : Outcome Scanner := do
  let scanner ← scanner.noteKey
  let (token, cursor) ← read scanner.cursor
  return ({ scanner with cursor, keyAllowed := false }).push token

/-- A text between quotes. -/
def quotedScalar (double : Bool) (cursor : Cursor) : Outcome (Token × Cursor) := do
  let (text, cursor) ← Cursor.quoted double cursor.step (cursor.rest.length + 1)
  return (.scalar (String.ofList text) false, cursor)

/-- A plain scalar; a simple key may follow it on a new line. -/
def plainScalar (scanner : Scanner) : Outcome Scanner := do
  let scanner ← scanner.noteKey
  let cursor := scanner.cursor
  let (text, keyAllowed, cursor) :=
    cursor.plainWords scanner.inFlow (scanner.indent + 1) [] false (cursor.rest.length + 1)
  return ({ scanner with cursor, keyAllowed }).push (.scalar (String.ofList text) true)

/-- A block scalar, behind which a simple key may follow. -/
def blockScalar (scanner : Scanner) (isFolded : Bool) : Outcome Scanner := do
  let scanner ← { scanner with keyAllowed := true }.dropKey
  let (text, cursor) ← scanner.cursor.step.blockScalar isFolded scanner.indent
  return (scanner.goTo cursor).push (.scalar (String.ofList text) false)

/-- Whether a plain scalar can start here. -/
def plainStarts (inFlow : Bool) (c : Char) (next : Option Char) : Bool :=
  !(isGap c || "-?:,[]\x7b\x7d#&*!|>'\"%@\x60".contains c) ||
    (!gapOrEnd next && (c == '-' || (!inFlow && (c == '?' || c == ':'))))

/-- Reads the token at a place that is not the end of the text. -/
def readToken (scanner : Scanner) (c : Char) : Outcome Scanner := do
  let cursor := scanner.cursor
  let next := cursor.ahead 1
  -- The order of the cases matters: marks at the start of a line come before all others.
  if c = '%' ∧ cursor.column = 0 then
    let scanner ← scanner.outsideBlocks
    let (token, cursor) ← scanner.cursor.step.directive
    return (scanner.goTo cursor).push token
  else if cursor.column = 0 ∧ cursor.atSeparator then
    return ((← scanner.outsideBlocks).forward 3).push (if c = '-' then .documentStart else .documentEnd)
  else if c = '[' then scanner.openBracket .flowSequenceStart
  else if c = '{' then scanner.openBracket .flowMappingStart
  else if c = ']' then scanner.closeBracket .flowSequenceEnd
  else if c = '}' then scanner.closeBracket .flowMappingEnd
  else if c = ',' then
    return ((← { scanner with keyAllowed := true }.dropKey).forward 1).push .flowEntry
  else if c = '-' ∧ gapOrEnd next then scanner.blockEntry
  else if c = '?' ∧ (scanner.inFlow ∨ gapOrEnd next) then scanner.explicitKey
  else if c = ':' ∧ (scanner.inFlow ∨ gapOrEnd next) then scanner.startValue
  else if c = '*' then scanner.keyLike fun cursor => do
    let (name, cursor) ← cursor.step.name
    return (.reference name, cursor)
  else if c = '&' then scanner.keyLike fun cursor => do
    let (name, cursor) ← cursor.step.name
    return (.anchor name, cursor)
  else if c = '!' then scanner.keyLike Cursor.tag
  else if c = '|' ∧ !scanner.inFlow then scanner.blockScalar false
  else if c = '>' ∧ !scanner.inFlow then scanner.blockScalar true
  else if c = '\'' then scanner.keyLike (quotedScalar false)
  else if c = '"' then scanner.keyLike (quotedScalar true)
  else if plainStarts scanner.inFlow c next then scanner.plainScalar
  else throw .malformed

/-- Reads all the tokens that are left, by at most as many steps as given. -/
def run (scanner : Scanner) : Nat → Outcome (List Token)
  | 0 => .error .malformed
  | fuel + 1 => do
    let scanner ← (scanner.skipGap (scanner.cursor.rest.length + 1)).dropStaleKeys
    -- A token further left ends the blocks it is no part of.
    let scanner := scanner.unwind scanner.cursor.column
    match scanner.cursor.peek with
    | none => return (← (scanner.unwind (-1)).dropKey).tokens
    | some c => (← scanner.readToken c).run fuel

end Scanner

/-- Whether a character may stand in a YAML text at all. -/
def isAllowed (c : Char) : Bool :=
  let code := c.toNat
  code == 9 || code == 10 || code == 13 || (0x20 ≤ code && code ≤ 0x7E) || code == 0x85 ||
    (0xA0 ≤ code && code ≤ 0xFFFD) || 0x10000 ≤ code

/-- The tokens of a text. A mark of byte order in front is passed over. -/
def tokens (text : List Char) : Outcome (List Token) :=
  if !text.all isAllowed then .error .malformed
  else
    let cursor : Cursor := { rest := text }
    let cursor := if cursor.peek = some '\uFEFF' then cursor.step else cursor
    Scanner.run { cursor } (text.length + 1)

end Issuance.Yaml
