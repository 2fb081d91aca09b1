import Issuance.Proofs.Blank
import Issuance.Proofs.Pem

/-! A text holds the blocks that stand between its marks, whatever stands around them and between them. -/

namespace Issuance.Pem

open Utf8 (bytesOf)

section Marks

variable {mark text before after : Bytes}

/-- A mark does not stand in a text, and with what follows does not come about before its own place. -/
def Unmarked (mark before : Bytes) : Prop := ¬ mark <:+: before ++ mark.dropLast

/-- There is no room for a mark before any text. -/
theorem Unmarked.nil (filled : mark ≠ []) : Unmarked mark [] := by
  intro inside
  have short := inside.length_le
  have positive := List.length_pos_iff.mpr filled
  rw [List.nil_append, List.length_dropLast] at short
  omega

theorem dropLast_prefix_append (mark after : Bytes) : mark.dropLast <+: mark ++ after :=
  (List.dropLast_prefix mark).trans (List.prefix_append mark after)

/-- A text that is cut has the mark where it is cut, and not before. -/
theorem of_cut? (filled : mark ≠ []) (found : cut? mark text = some (before, after)) :
    text = before ++ (mark ++ after) ∧ Unmarked mark before := by
  induction text generalizing before with
  | nil => simp [cut?] at found
  | cons byte rest ih =>
    rw [cut?] at found
    split at found
    · next starts =>
      -- The mark stands at once, and nothing before it.
      obtain ⟨others, whole⟩ := List.isPrefixOf_iff_prefix.mp starts
      rw [← whole, List.drop_left] at found
      cases found
      exact ⟨whole.symm, .nil filled⟩
    · next other =>
      obtain ⟨⟨further, rest'⟩, inner, same⟩ := Option.map_eq_some_iff.mp found
      cases same
      obtain ⟨rfl, unmarked⟩ := ih inner
      refine ⟨rfl, fun inside => ?_⟩
      rcases List.infix_cons_iff.mp inside with starts | later
      · -- What begins with the mark would begin with it in the whole text.
        apply other
        rw [List.isPrefixOf_iff_prefix]
        exact starts.trans ((List.prefix_append_right_inj (byte :: further)).mpr
          (dropLast_prefix_append mark after))
      · exact unmarked later

/-- Behind what the mark does not stand in, a text is cut at the mark. -/
theorem cut?_of_unmarked (filled : mark ≠ []) (unmarked : Unmarked mark before) :
    cut? mark (before ++ (mark ++ after)) = some (before, after) := by
  induction before with
  | nil =>
    obtain ⟨first, others, rfl⟩ := List.exists_cons_of_ne_nil filled
    rw [List.nil_append, List.cons_append, cut?, if_pos (by simp), ← List.cons_append,
      List.drop_left]
  | cons byte before ih =>
    have later := ih fun inside => unmarked (inside.trans (List.suffix_cons ..).isInfix)
    rw [List.cons_append, cut?, if_neg, later]
    · rfl
    · rw [List.isPrefixOf_iff_prefix]
      intro starts
      -- A mark that stood here would end before the mark that follows does.
      have reach : byte :: before ++ mark.dropLast <+: byte :: (before ++ (mark ++ after)) :=
        (List.prefix_append_right_inj (byte :: before)).mpr (dropLast_prefix_append mark after)
      refine unmarked (List.prefix_of_prefix_length_le starts reach ?_).isInfix
      rw [List.length_append, List.length_dropLast, List.length_cons]
      omega

/-- A text is cut at the first place where the mark stands. -/
theorem cut?_eq_some_iff (filled : mark ≠ []) :
    cut? mark text = some (before, after) ↔
      text = before ++ (mark ++ after) ∧ Unmarked mark before := by
  constructor
  · exact of_cut? filled
  · rintro ⟨rfl, unmarked⟩
    exact cut?_of_unmarked filled unmarked

/-- A mark is not found exactly where it does not stand. -/
theorem cut?_eq_none_iff (filled : mark ≠ []) : cut? mark text = none ↔ ¬ mark <:+: text := by
  constructor
  · intro missing
    rintro ⟨front, back, rfl⟩
    -- Of the places where it stands, one is the first.
    induction front with
    | nil =>
      obtain ⟨first, others, rfl⟩ := List.exists_cons_of_ne_nil filled
      rw [List.nil_append, List.cons_append, cut?, if_pos (by simp)] at missing
      cases missing
    | cons byte front ih =>
      rw [List.cons_append, List.cons_append, cut?] at missing
      split at missing
      · cases missing
      · exact ih (Option.map_eq_none_iff.mp missing)
  · intro absent
    cases found : cut? mark text with
    | none => rfl
    | some parts =>
      obtain ⟨rfl, _⟩ := (cut?_eq_some_iff filled).mp found
      exact absurd ⟨parts.1, parts.2, by simp⟩ absent

end Marks

/--
The first frame of a text, and the text behind it.

Between the marks stand the two labels and the body, each up to the first mark that ends it.
Space behind the first label, and behind the frame, belongs to nothing.
-/
inductive Foremost : Bytes → Frame → Bytes → Prop where
  | mk {gap beginLabel space body endLabel space' rest : Bytes} (opened : Unmarked beginMark gap)
      (labelled : Unmarked dashes beginLabel) (spaced : ∀ byte ∈ space, isSpace byte = true)
      (begun : ∀ byte, body.head? = some byte → isSpace byte = false)
      (closed : Unmarked endMark body) (labelled' : Unmarked dashes endLabel)
      (spaced' : ∀ byte ∈ space', isSpace byte = true)
      (left : ∀ byte, rest.head? = some byte → isSpace byte = false) :
      Foremost (gap ++ (beginMark ++ (beginLabel ++ (dashes ++ (space ++ (body ++ (endMark ++
        (endLabel ++ (dashes ++ (space' ++ rest)))))))))) ⟨beginLabel, body, endLabel⟩ rest

/-- What is read first is the first frame. -/
theorem frame?_eq_some_iff {text rest : Bytes} {frame : Frame} :
    frame? text = some (frame, rest) ↔ Foremost text frame rest := by
  have opening : beginMark ≠ [] := by decide
  have label : dashes ≠ [] := by decide
  have closing : endMark ≠ [] := by decide
  unfold frame?
  -- Each cut tells where its mark stands, and each space that is dropped where it ends.
  simp only [Option.bind_eq_bind, Option.bind_eq_some_iff, Option.pure_def, Option.some.injEq,
    Prod.mk.injEq, Prod.exists, cut?_eq_some_iff opening, cut?_eq_some_iff label,
    cut?_eq_some_iff closing, Text.dropWhile_eq_iff]
  constructor
  · rintro ⟨gap, _, ⟨rfl, opened⟩, beginLabel, _, ⟨rfl, labelled⟩, body, _,
      ⟨⟨⟨space, rfl, spaced⟩, begun⟩, closed⟩, endLabel, _, ⟨rfl, labelled'⟩, rfl,
      ⟨space', rfl, spaced'⟩, left⟩
    refine .mk opened labelled spaced (fun byte first => begun byte ?_) closed labelled' spaced' left
    rw [List.head?_append, first, Option.some_or]
  · rintro @⟨_, _, _, body, _, _, _, opened, labelled, spaced, begun, closed, labelled', spaced',
      left⟩
    refine ⟨_, _, ⟨rfl, opened⟩, _, _, ⟨rfl, labelled⟩, _, _,
      ⟨⟨⟨_, rfl, spaced⟩, fun byte first => ?_⟩, closed⟩, _, _, ⟨rfl, labelled'⟩, rfl,
      ⟨_, rfl, spaced'⟩, left⟩
    -- Behind an empty body the mark begins at once, and not with space.
    cases body with
    | nil =>
      cases first
      decide
    | cons own others => exact begun byte first

/-- The headers of a body, and the data that an empty line divides from them. -/
inductive Parted : Bytes → Bytes → Bytes → Prop where
  | lineFeeds {headers data : Bytes} (first : Unmarked [10, 10] headers) :
      Parted (headers ++ ([10, 10] ++ data)) headers data
  /-- Lines may end with a carriage return and a line feed, if there are none that end without. -/
  | returns {headers data : Bytes}
      (other : ¬ [10, 10] <:+: headers ++ ([13, 10, 13, 10] ++ data))
      (first : Unmarked [13, 10, 13, 10] headers) :
      Parted (headers ++ ([13, 10, 13, 10] ++ data)) headers data
  /-- Without an empty line there are no headers. -/
  | bare {data : Bytes} (feeds : ¬ [10, 10] <:+: data) (returns : ¬ [13, 10, 13, 10] <:+: data) :
      Parted data [] data

theorem split_eq_iff {body headers data : Bytes} :
    split body = (headers, data) ↔ Parted body headers data := by
  have feeds : ([10, 10] : Bytes) ≠ [] := by decide
  have returns : ([13, 10, 13, 10] : Bytes) ≠ [] := by decide
  unfold split
  constructor
  · intro parted
    -- An empty line of the second kind is looked for only where there is none of the first.
    cases first : cut? [10, 10] body with
    | some parts =>
      rw [first] at parted
      cases parted
      obtain ⟨rfl, unmarked⟩ := (cut?_eq_some_iff feeds).mp first
      exact .lineFeeds unmarked
    | none =>
      have other := (cut?_eq_none_iff feeds).mp first
      rw [first, Option.none_or] at parted
      cases second : cut? [13, 10, 13, 10] body with
      | some parts =>
        rw [second] at parted
        cases parted
        obtain ⟨rfl, unmarked⟩ := (cut?_eq_some_iff returns).mp second
        exact .returns other unmarked
      | none =>
        rw [second] at parted
        cases parted
        exact .bare other ((cut?_eq_none_iff returns).mp second)
  · intro parted
    cases parted with
    | lineFeeds first => rw [(cut?_eq_some_iff feeds).mpr ⟨rfl, first⟩]; rfl
    | returns other first =>
      rw [(cut?_eq_none_iff feeds).mpr other, (cut?_eq_some_iff returns).mpr ⟨rfl, first⟩]
      rfl
    | bare other further =>
      rw [(cut?_eq_none_iff feeds).mpr other, (cut?_eq_none_iff returns).mpr further]
      rfl

/--
A frame spells a block.

Both of its labels are that of the block, its headers are in order, and space apart its data is
what base64 writes for the contents.
-/
structure Spells (frame : Frame) (block : Block) : Prop where
  label : Utf8.decode? frame.beginLabel = some block.label
  closing : frame.endLabel = frame.beginLabel
  labelled : block.label ≠ ""
  body : ∃ headers data, Parted frame.body headers data ∧ headersOk headers = true ∧
    data.filter (!isSpace ·) = bytesOf (Base64.encode block.contents)

/-- What base64 writes is ASCII text. -/
theorem ascii_encode (bytes : Bytes) : Utf8.Ascii (Base64.encode bytes) :=
  fun _ member => (digit_of_mem_encode member).ascii

/-- The block of a frame is the one that it spells. -/
theorem block?_eq_some_iff {frame : Frame} {block : Block} :
    frame.block? = some block ↔ Spells frame block := by
  unfold Frame.block?
  simp only [Option.bind_eq_bind, Option.bind_eq_some_iff]
  constructor
  · rintro ⟨label, read, spelled⟩
    -- Of a frame that is out of order nothing is decoded.
    split at spelled
    · next agreed =>
      obtain ⟨same, filled, ordered⟩ := agreed
      obtain ⟨contents, decoded, made⟩ := Option.bind_eq_some_iff.mp spelled
      cases made
      exact ⟨read, same.symm, String.isEmpty_eq_false_iff.mp filled, _, _, split_eq_iff.mp rfl,
        ordered, (Utf8.map_ofNat_eq_iff (ascii_encode contents)).mp
          (Base64.decode?_eq_some_iff.mp decoded)⟩
    · cases spelled
  · rintro ⟨read, same, filled, headers, data, parted, ordered, digits⟩
    refine ⟨block.label, read, ?_⟩
    rw [split_eq_iff.mpr parted]
    have agreed : frame.beginLabel = frame.endLabel ∧ block.label.isEmpty = false ∧
        headersOk headers = true := ⟨same.symm, String.isEmpty_eq_false_iff.mpr filled, ordered⟩
    have decoded := Base64.decode?_eq_some_iff.mpr
      ((Utf8.map_ofNat_eq_iff (ascii_encode block.contents)).mpr digits)
    simp only [agreed, and_self, if_true, decoded]
    rfl

/-- A text holds blocks: its frames, one behind another up to the last, spell them. -/
inductive Holds : Bytes → List Block → Prop where
  | none {text : Bytes} (frameless : ∀ frame rest, ¬ Foremost text frame rest) : Holds text []
  | block {text rest : Bytes} {frame : Frame} {block : Block} {blocks : List Block}
      (foremost : Foremost text frame rest) (spells : Spells frame block)
      (others : Holds rest blocks) : Holds text (block :: blocks)

theorem blocks?_of_none {text : Bytes} (missing : frame? text = none) : blocks? text = some [] := by
  rw [blocks?]
  split
  · rfl
  · next found =>
    rw [missing] at found
    cases found

theorem blocks?_of_some {text rest : Bytes} {frame : Frame}
    (found : frame? text = some (frame, rest)) :
    blocks? text = frame.block?.bind fun block => (blocks? rest).map (block :: ·) := by
  rw [blocks?]
  split
  · next missing =>
    rw [found] at missing
    cases missing
  · next found' =>
    rw [found] at found'
    cases found'
    cases frame.block? <;> cases blocks? rest <;> rfl

/-- The blocks that a text holds are read, and no others. -/
theorem blocks?_eq_some_iff {text : Bytes} {blocks : List Block} :
    blocks? text = some blocks ↔ Holds text blocks := by
  constructor
  · intro read
    -- The induction is on the length of the text, of which each frame leaves less.
    induction size : text.length using Nat.strongRecOn generalizing text blocks with
    | ind size ih =>
      cases found : frame? text with
      | none =>
        rw [blocks?_of_none found] at read
        cases read
        refine .none fun frame rest foremost => ?_
        rw [frame?_eq_some_iff.mpr foremost] at found
        cases found
      | some parts =>
        obtain ⟨frame, rest⟩ := parts
        rw [blocks?_of_some found] at read
        obtain ⟨block, spelled, further⟩ := Option.bind_eq_some_iff.mp read
        obtain ⟨others, behind, rfl⟩ := Option.map_eq_some_iff.mp further
        exact .block (frame?_eq_some_iff.mp found) (block?_eq_some_iff.mp spelled)
          (ih rest.length (size ▸ frame?_length found) behind rfl)
  · intro holds
    induction holds with
    | none frameless =>
      apply blocks?_of_none
      rw [Option.eq_none_iff_forall_ne_some]
      rintro ⟨frame, rest⟩ found
      exact frameless frame rest (frame?_eq_some_iff.mp found)
    | block foremost spells _ ih =>
      rw [blocks?_of_some (frame?_eq_some_iff.mpr foremost), block?_eq_some_iff.mpr spells, ih]
      rfl

/-- Text that is cut off with the mark of a frame tells nothing of the frame. -/
theorem frame?_behind {gap text : Bytes} (unmarked : Unmarked beginMark gap) :
    frame? (gap ++ (beginMark ++ text)) = frame? (beginMark ++ text) := by
  have opening : beginMark ≠ [] := by decide
  unfold frame?
  rw [(cut?_eq_some_iff opening).mpr ⟨rfl, unmarked⟩, ← List.nil_append (beginMark ++ text),
    (cut?_eq_some_iff opening).mpr ⟨rfl, .nil opening⟩]
  rfl

/-- Space before a text tells nothing of its frames, as no mark begins with space. -/
theorem frame?_dropWhile (text : Bytes) : frame? (text.dropWhile isSpace) = frame? text := by
  induction text with
  | nil => rfl
  | cons byte text ih =>
    by_cases space : isSpace byte = true
    · -- The mark is looked for behind the space, and what stands before it is not kept.
      have unlike : ¬ beginMark.isPrefixOf (byte :: text) := by
        rw [List.isPrefixOf_iff_prefix]
        rintro ⟨others, whole⟩
        cases whole
        exact absurd space (by decide)
      rw [List.dropWhile_cons_of_pos space, ih]
      unfold frame?
      rw [cut?, if_neg unlike]
      cases cut? beginMark text <;> rfl
    · rw [List.dropWhile_cons_of_neg space]

/-- Where the frames are the same, so are the blocks. -/
theorem blocks?_congr {text other : Bytes} (same : frame? text = frame? other) :
    blocks? text = blocks? other := by
  cases found : frame? other with
  | none => rw [blocks?_of_none found, blocks?_of_none (same.trans found)]
  | some parts => rw [blocks?_of_some found, blocks?_of_some (same.trans found)]

/-- A block that is written behind other text is held besides all that follows it. -/
theorem Holds.behind {gap rest : Bytes} {block : Block} {blocks : List Block}
    (label : PlainLabel block.label) (unmarked : Unmarked beginMark gap) (others : Holds rest blocks) :
    Holds (gap ++ (block.bytes ++ rest)) (block :: blocks) := by
  -- The first frame is that of the block, whose bytes begin with the mark.
  have framed := frame?_bytes label rest
  rw [Block.bytes, List.append_assoc, ← frame?_behind unmarked, ← List.append_assoc beginMark,
    ← Block.bytes] at framed
  rw [← blocks?_eq_some_iff] at others ⊢
  rw [blocks?_of_some framed, block?_of_data label, blocks?_congr (frame?_dropWhile rest), others]
  rfl

/-- Blocks that are written one after another are read back as they were. -/
theorem blocks?_flatMap_bytes {blocks : List Block}
    (labels : ∀ block ∈ blocks, PlainLabel block.label) :
    blocks? (blocks.flatMap Block.bytes) = some blocks := by
  induction blocks with
  | nil => exact blocks?_of_none rfl
  | cons block blocks ih =>
    -- The others are held behind the first, with nothing before it.
    have others := ih fun other member => labels other (by simp [member])
    have opening : beginMark ≠ [] := by decide
    exact blocks?_eq_some_iff.mpr
      (.behind (labels block (by simp)) (.nil opening) (blocks?_eq_some_iff.mp others))

end Issuance.Pem
