import Issuance.Encoding.Base64

/-! Labelled blocks of bytes within a text, between BEGIN and END lines. -/

namespace Issuance.Pem

/-- A block: its label and its bytes. -/
structure Block where
  label : String
  contents : Bytes
  deriving DecidableEq, Repr

/-- The bytes of a text that has only ASCII characters. -/
def ascii (s : String) : Bytes := s.toList.map fun c => UInt8.ofNat c.toNat

/-- What a block begins with. -/
def beginMark : Bytes := ascii "-----BEGIN "

/-- What ends the contents of a block. -/
def endMark : Bytes := ascii "-----END "

/-- What stands behind a label. -/
def dashes : Bytes := ascii "-----"

/-- Space that may stand around the lines of a block. -/
def isSpace (byte : UInt8) : Bool := byte == 32 || byte == 9 || byte == 10 || byte == 13

/-- What stands before the first place where a mark is found, and what follows the mark. -/
def cut? (mark : Bytes) : Bytes → Option (Bytes × Bytes)
  | [] => none
  | byte :: rest =>
    if mark.isPrefixOf (byte :: rest) then some ([], (byte :: rest).drop mark.length)
    else (cut? mark rest).map fun (before, after) => (byte :: before, after)

/-- The parts of a block as they stand in a text. -/
structure Frame where
  beginLabel : Bytes
  body : Bytes
  endLabel : Bytes
  deriving DecidableEq, Repr

/-- The first block of a text in its parts, and what follows it; none without a whole block. -/
def frame? (text : Bytes) : Option (Frame × Bytes) := do
  let (_, text) ← cut? beginMark text
  let (beginLabel, text) ← cut? dashes text
  -- Space behind the label belongs to no body.
  let (body, text) ← cut? endMark (text.dropWhile isSpace)
  let (endLabel, text) ← cut? dashes text
  return (⟨beginLabel, body, endLabel⟩, text.dropWhile isSpace)

/-- The headers of a body, which end with an empty line, and its data. -/
def split (body : Bytes) : Bytes × Bytes :=
  ((cut? [10, 10] body).or (cut? [13, 10, 13, 10] body)).getD ([], body)

/-- The lines of a text, without their line feeds. -/
def lines (text : Bytes) : List Bytes :=
  match text with
  | [] => []
  | byte :: rest =>
    if byte = 10 then [] :: lines rest
    else match lines rest with
      | [] => [[byte]]
      | line :: more => (byte :: line) :: more

/-- Whether headers are text, each line of which has a colon. -/
def headersOk (headers : Bytes) : Bool :=
  (Utf8.decode? headers).isSome && (lines headers).all (·.contains 58)

/-- The block in a frame: labels agree, headers are in order, and the data is base64 apart from space. -/
def Frame.block? (frame : Frame) : Option Block := do
  let label ← Utf8.decode? frame.beginLabel
  let (headers, data) := split frame.body
  if frame.beginLabel = frame.endLabel ∧ label.isEmpty = false ∧ headersOk headers then
    -- Lines may break anywhere, so that space is dropped before the digits are grouped.
    let digits := (data.filter (!isSpace ·)).map fun byte => Char.ofNat byte.toNat
    return ⟨label, ← Base64.decode? digits⟩
  else none

theorem cut?_length {mark text before after : Bytes} (found : cut? mark text = some (before, after)) :
    after.length ≤ text.length := by
  induction text generalizing before with
  | nil => simp [cut?] at found
  | cons byte rest ih =>
    simp only [cut?] at found
    split at found
    · simp only [Option.some.injEq, Prod.mk.injEq] at found
      rw [← found.2]
      simp
    · obtain ⟨⟨before', after'⟩, inner, same⟩ := Option.map_eq_some_iff.1 found
      simp only [Prod.mk.injEq] at same
      obtain ⟨_, rfl⟩ := same
      exact Nat.le_succ_of_le (ih inner)

theorem cut?_length_lt {mark text before after : Bytes} (positive : 0 < mark.length)
    (found : cut? mark text = some (before, after)) : after.length < text.length := by
  induction text generalizing before with
  | nil => simp [cut?] at found
  | cons byte rest ih =>
    simp only [cut?] at found
    split at found
    · simp only [Option.some.injEq, Prod.mk.injEq] at found
      rw [← found.2, List.length_drop, List.length_cons]
      omega
    · obtain ⟨⟨before', after'⟩, inner, same⟩ := Option.map_eq_some_iff.1 found
      simp only [Prod.mk.injEq] at same
      obtain ⟨_, rfl⟩ := same
      exact Nat.lt_succ_of_lt (ih inner)

theorem frame?_length {text rest : Bytes} {frame : Frame} (found : frame? text = some (frame, rest)) :
    rest.length < text.length := by
  unfold frame? at found
  simp only [Option.bind_eq_bind, Option.bind_eq_some_iff, Option.pure_def, Option.some.injEq,
    Prod.mk.injEq, Prod.exists] at found
  obtain ⟨_, text₁, first, _, text₂, second, _, text₃, third, _, text₄, fourth, _, rfl⟩ := found
  have h₁ := cut?_length_lt (by decide) first
  have h₂ := cut?_length second
  have h₃ := cut?_length third
  have h₄ := cut?_length fourth
  have h₅ : (text₂.dropWhile isSpace).length ≤ text₂.length := List.dropWhile_sublist _ |>.length_le
  have h₆ : (text₄.dropWhile isSpace).length ≤ text₄.length := List.dropWhile_sublist _ |>.length_le
  omega

/-- All the blocks of a text, in order; none if one of them is malformed. -/
def blocks? (text : Bytes) : Option (List Block) :=
  match _found : frame? text with
  | none => some []
  | some (frame, rest) => do
    let block ← frame.block?
    return block :: (← blocks? rest)
termination_by text.length
decreasing_by exact frame?_length _found

/-- The width of the lines of a written block. -/
def width : Nat := 64

/-- Characters with a line feed where a line is full; the count says how many the first one still takes. -/
def wrapped (room : Nat) : List Char → List Char
  | [] => []
  | c :: rest =>
    match room with
    | 0 => '\n' :: c :: wrapped (width - 1) rest
    | room + 1 => c :: wrapped room rest

/-- A block as text. -/
def Block.text (block : Block) : String :=
  let digits := Base64.encode block.contents
  "-----BEGIN " ++ block.label ++ "-----\n" ++ String.ofList (wrapped width digits) ++
    (if digits.isEmpty then "" else "\n") ++ "-----END " ++ block.label ++ "-----\n"

end Issuance.Pem
