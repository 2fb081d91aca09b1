import Issuance.Text.CaseTable

/-! Lower and upper case by the full Unicode mappings, with the final form of sigma at the end of a word. -/

namespace Issuance.Text

/-- Whether a code point lies in one of the spans. -/
def inSpans (spans : Array (Nat × Nat)) (code : Nat) : Bool :=
  spans.any fun (first, last) => first ≤ code && code ≤ last

/-- The code point a run maps a code point to, if the run holds it. -/
def CaseRun.image? (run : CaseRun) (code : Nat) : Option Nat :=
  if run.first ≤ code && code ≤ run.last && (code - run.first) % run.step == 0 then
    some ((code : Int) + run.shift).toNat
  else none

/-- The image of one character under a mapping given by runs and expansions. -/
def mapChar (runs : Array CaseRun) (expansions : List (Nat × List Nat)) (c : Char) : List Char :=
  match runs.findSome? (·.image? c.toNat) with
  | some code => [Char.ofNat code]
  | none =>
    match expansions.lookup c.toNat with
    | some codes => codes.map Char.ofNat
    | none => [c]

/-- The lower case of a character outside every context. -/
def lowerChar (c : Char) : List Char :=
  if c.toNat < 128 then [c.toLower] else mapChar lowerRuns lowerExpansions c

/-- The upper case of a character. -/
def upperChar (c : Char) : List Char :=
  if c.toNat < 128 then [c.toUpper] else mapChar upperRuns upperExpansions c

/-- Whether a character has case, as sigma sees it. -/
def isCased (c : Char) : Bool := inSpans casedSpans c.toNat

/-- Whether sigma looks past a character. -/
def isCaseIgnorable (c : Char) : Bool := inSpans caseIgnorableSpans c.toNat

/-- Whether the first character that sigma does not look past has case. -/
def cased : List Char → Bool
  | [] => false
  | c :: rest => if isCaseIgnorable c then cased rest else isCased c

/-- Lower case of what follows a text; the flag says whether that text ends in a cased letter. -/
def lowerAfter (afterCased : Bool) : List Char → List Char
  | [] => []
  | c :: rest =>
    -- Sigma alone depends on its neighbours: a letter before it, and none after it.
    let image :=
      if c = 'Σ' then [if afterCased && !cased rest then 'ς' else 'σ'] else lowerChar c
    image ++ lowerAfter (if isCaseIgnorable c then afterCased else isCased c) rest

/-- The lower case of a text. -/
def lower (s : String) : String := String.ofList (lowerAfter false s.toList)

/-- The upper case of a text. -/
def upper (s : String) : String := String.ofList (s.toList.flatMap upperChar)

end Issuance.Text
