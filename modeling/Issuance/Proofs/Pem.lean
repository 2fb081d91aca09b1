import Issuance.Encoding.Pem
import Issuance.Proofs.Base64
import Issuance.Proofs.Utf8

/-! A block that is written is read back as it was, whatever is written behind it. -/

namespace Issuance.Pem

open Utf8 (bytesOf Ascii)

/-- A mark is found where it stands, if nothing before it begins like it. -/
theorem cut?_append {mark before after : Bytes} (first : UInt8) (begins : mark.head? = some first)
    (unlike : ∀ byte ∈ before, byte ≠ first) :
    cut? mark (before ++ (mark ++ after)) = some (before, after) := by
  obtain ⟨others, rfl⟩ := List.head?_eq_some_iff.mp begins
  induction before with
  | nil => simp [cut?]
  | cons byte before ih =>
    -- The mark does not begin here, so that it is found where it is found in the rest.
    have other : first ≠ byte := (unlike byte (by simp)).symm
    have further := ih fun byte member => unlike byte (by simp [member])
    rw [List.cons_append, cut?, further]
    simp [other]

/-- A mark is not found in a text that has nothing like its beginning. -/
theorem cut?_eq_none {mark text : Bytes} (first : UInt8) (begins : mark.head? = some first)
    (unlike : ∀ byte ∈ text, byte ≠ first) : cut? mark text = none := by
  obtain ⟨others, rfl⟩ := List.head?_eq_some_iff.mp begins
  induction text with
  | nil => rfl
  | cons byte text ih =>
    -- It does not begin here, nor anywhere in the rest.
    have other : first ≠ byte := (unlike byte (by simp)).symm
    rw [cut?, ih fun byte member => unlike byte (by simp [member])]
    simp [other]

/-- A label that does not look like the end of one, and is one byte a character. -/
structure PlainLabel (label : String) : Prop where
  filled : label ≠ ""
  ascii : Ascii label.toList
  dashless : ∀ byte ∈ bytesOf label.toList, byte ≠ 45

instance (label : String) : Decidable (PlainLabel label) :=
  -- The bytes are looked at one by one, and not all that there are.
  haveI : Decidable (∀ byte ∈ bytesOf label.toList, byte ≠ 45) := List.decidableBAll _ _
  decidable_of_iff (label ≠ "" ∧ Ascii label.toList ∧ ∀ byte ∈ bytesOf label.toList, byte ≠ 45)
    ⟨fun ⟨filled, ascii, dashless⟩ => ⟨filled, ascii, dashless⟩,
      fun plain => ⟨plain.filled, plain.ascii, plain.dashless⟩⟩

/-- A character of base64, or padding: one byte that is neither space nor a dash. -/
structure Digit (c : Char) : Prop where
  ascii : c.toNat < 128
  notSpace : isSpace (UInt8.ofNat c.toNat) = false
  notDash : UInt8.ofNat c.toNat ≠ 45

instance (c : Char) : Decidable (Digit c) :=
  decidable_of_iff (c.toNat < 128 ∧ isSpace (UInt8.ofNat c.toNat) = false ∧
      UInt8.ofNat c.toNat ≠ 45)
    ⟨fun ⟨ascii, notSpace, notDash⟩ => ⟨ascii, notSpace, notDash⟩,
      fun digit => ⟨digit.ascii, digit.notSpace, digit.notDash⟩⟩

/-- What base64 writes are such characters. -/
theorem digit_of_mem_encode {bytes : Bytes} {c : Char} (member : c ∈ Base64.encode bytes) :
    Digit c := by
  -- There are no more than 64 digits to look at, and padding.
  have all : ∀ bits < 64, Digit (Base64.digit bits) := by decide
  rcases Base64.of_mem_encode member with rfl | ⟨bits, small, rfl⟩
  · decide
  · exact all bits small

/-- The data of a block: the digits of its bytes in lines, each with an end. -/
def Block.data (block : Block) : Bytes :=
  bytesOf (wrapped width (Base64.encode block.contents)) ++
    if (Base64.encode block.contents).isEmpty then [] else [10]

/-- A block as bytes. -/
def Block.bytes (block : Block) : Bytes :=
  beginMark ++ (bytesOf block.label.toList ++ (dashes ++ (10 :: (block.data ++
    (endMark ++ (bytesOf block.label.toList ++ (dashes ++ [10])))))))

/-- Lines are made of the characters that are broken into them, and of line feeds. -/
theorem of_mem_wrapped {room : Nat} {cs : List Char} {c : Char} (member : c ∈ wrapped room cs) :
    c ∈ cs ∨ c = '\n' := by
  fun_induction wrapped room cs with
  | case1 => exact .inl member
  | case2 c' rest ih =>
    -- A line that is full is ended before the next character.
    rcases List.mem_cons.mp member with rfl | member
    · exact .inr rfl
    · rcases List.mem_cons.mp member with rfl | member
      · exact .inl (by simp)
      · exact (ih member).imp_left (List.mem_cons_of_mem _)
  | case3 c' rest room ih =>
    rcases List.mem_cons.mp member with rfl | member
    · exact .inl (by simp)
    · exact (ih member).imp_left (List.mem_cons_of_mem _)

/-- Dropping the line feeds again leaves what was broken into lines. -/
theorem filter_wrapped {room : Nat} {cs : List Char} (digits : ∀ c ∈ cs, Digit c) :
    (bytesOf (wrapped room cs)).filter (!isSpace ·) = bytesOf cs := by
  fun_induction wrapped room cs with
  | case1 => rfl
  | case2 c rest ih =>
    have here := (digits c (by simp)).notSpace
    have there := ih fun other member => digits other (by simp [member])
    simp only [bytesOf, List.map_cons] at there ⊢
    -- The line feed is dropped, and the digit behind it stays.
    rw [List.filter_cons_of_neg (by decide), List.filter_cons_of_pos (by rw [here]; rfl), there]
  | case3 c rest room ih =>
    have here := (digits c (by simp)).notSpace
    have there := ih fun other member => digits other (by simp [member])
    simp only [bytesOf, List.map_cons] at there ⊢
    rw [List.filter_cons_of_pos (by rw [here]; rfl), there]

/-- A digit is no line feed. -/
theorem Digit.ne_lineFeed {c : Char} (digit : Digit c) : 10 ≠ UInt8.ofNat c.toNat := by
  intro same
  -- A line feed is space.
  exact absurd digit.notSpace (by rw [← same]; decide)

/-- Lines are broken before a digit only, so that no two line feeds meet. -/
theorem cut?_blankLine_wrapped {room : Nat} {cs : List Char} (digits : ∀ c ∈ cs, Digit c) :
    cut? [10, 10] (bytesOf (wrapped room cs) ++ [10]) = none := by
  fun_induction wrapped room cs with
  | case1 => decide
  | case2 c rest ih =>
    have here := (digits c (by simp)).ne_lineFeed
    have there := ih fun other member => digits other (by simp [member])
    simp only [bytesOf, List.map_cons, List.cons_append] at there ⊢
    simp [cut?, here, there]
  | case3 c rest room ih =>
    have here := (digits c (by simp)).ne_lineFeed
    have there := ih fun other member => digits other (by simp [member])
    simp only [bytesOf, List.map_cons, List.cons_append] at there ⊢
    simp [cut?, here, there]

/-- The text of a block is written as these bytes. -/
theorem encode_text {block : Block} (label : PlainLabel block.label) :
    Utf8.encode block.text = block.bytes := by
  -- Label and lines are ASCII, and the marks are known.
  have lines : Ascii (wrapped width (Base64.encode block.contents)) := by
    intro c member
    rcases of_mem_wrapped member with digit | rfl
    · exact (digit_of_mem_encode digit).ascii
    · decide
  have written : Utf8.encode (String.ofList (wrapped width (Base64.encode block.contents))) =
      bytesOf (wrapped width (Base64.encode block.contents)) := by
    simpa using Utf8.encode_of_ascii (s := String.ofList _) (by simpa using lines)
  have last : Utf8.encode (if (Base64.encode block.contents).isEmpty then "" else "\n") =
      if (Base64.encode block.contents).isEmpty then [] else [10] := by
    split <;> rfl
  have opening : Utf8.encode "-----BEGIN " = beginMark := by decide
  have middle : Utf8.encode "-----END " = endMark := by decide
  have closing : Utf8.encode "-----\n" = dashes ++ [10] := by decide
  unfold Block.text Block.bytes Block.data
  -- Each of the seven pieces of the text is written by itself.
  simp only [Utf8.encode_append, Utf8.encode_of_ascii label.ascii, written, last, opening, middle,
    closing, List.append_assoc, List.cons_append, List.nil_append]

section Read

variable {block : Block}

/-- The data of a block holds nothing but digits and line feeds. -/
theorem of_mem_data {byte : UInt8} (member : byte ∈ block.data) :
    byte = 10 ∨ ∃ c, Digit c ∧ byte = UInt8.ofNat c.toNat := by
  rcases List.mem_append.mp member with line | last
  -- Characters of a line are digits or end it, and the end of the last line is added to them.
  · obtain ⟨c, inLine, rfl⟩ := List.mem_map.mp line
    rcases of_mem_wrapped inLine with digit | rfl
    · exact .inr ⟨c, digit_of_mem_encode digit, rfl⟩
    · exact .inl rfl
  · split at last
    · simp at last
    · exact .inl (by simpa using last)

/-- The data of a block has no headers before it. -/
theorem split_data : split block.data = ([], block.data) := by
  -- Headers would end with an empty line, in one of the two ways to end lines.
  have blank : cut? [10, 10] block.data = none := by
    unfold Block.data
    split
    · next empty =>
      rw [List.isEmpty_iff.mp empty]
      rfl
    · exact cut?_blankLine_wrapped fun c => digit_of_mem_encode
  have windows : cut? [13, 10, 13, 10] block.data = none := by
    -- The other way begins with a byte that is not in the data.
    refine cut?_eq_none 13 rfl fun byte member => ?_
    rcases of_mem_data member with rfl | ⟨c, digit, rfl⟩
    · decide
    · intro same
      exact absurd digit.notSpace (by rw [same]; decide)
  rw [split, blank, windows]
  rfl

/-- Without space, the data of a block is the digits of its contents. -/
theorem digits_data : ((block.data.filter (!isSpace ·)).map fun byte => Char.ofNat byte.toNat) =
    Base64.encode block.contents := by
  have digits : ∀ c ∈ Base64.encode block.contents, Digit c := fun c => digit_of_mem_encode
  -- The end of the last line is space like the ends of the others.
  have last : (if (Base64.encode block.contents).isEmpty then [] else [(10 : UInt8)]).filter
      (!isSpace ·) = [] := by
    split <;> rfl
  rw [Block.data, List.filter_append, last, List.append_nil, filter_wrapped digits]
  exact (Utf8.map_ofNat_eq_iff fun c member => (digits c member).ascii).mpr rfl

/-- A frame around the data of a block holds that block. -/
theorem block?_of_data (label : PlainLabel block.label) :
    (Frame.mk (bytesOf block.label.toList) block.data (bytesOf block.label.toList)).block? =
      some block := by
  have filled : block.label.isEmpty = false := String.isEmpty_eq_false_iff.mpr label.filled
  unfold Frame.block?
  -- Label, headers and data are read in turn, and all of them as they were written.
  simp only [Utf8.decode?_of_ascii label.ascii, split_data, digits_data, Base64.decode?_encode,
    Option.bind_eq_bind, Option.bind_some, filled, true_and]
  rw [if_pos (by decide +kernel)]
  rfl

/-- The space behind a label ends where the data begins. -/
theorem dropWhile_data (rest : Bytes) :
    (10 :: (block.data ++ (endMark ++ rest))).dropWhile isSpace =
      block.data ++ (endMark ++ rest) := by
  rw [List.dropWhile_cons_of_pos (by decide)]
  unfold Block.data
  cases shape : Base64.encode block.contents with
  | nil => rfl
  | cons c digits =>
    -- Data that is there begins with a digit.
    have here := (digit_of_mem_encode (shape ▸ List.mem_cons_self : c ∈ _)).notSpace
    exact List.dropWhile_cons_of_neg (by simp [here])

/-- The first frame of a text that begins with a block is that of the block. -/
theorem frame?_bytes (label : PlainLabel block.label) (rest : Bytes) :
    frame? (block.bytes ++ rest) =
      some (⟨bytesOf block.label.toList, block.data, bytesOf block.label.toList⟩,
        rest.dropWhile isSpace) := by
  -- All marks begin with a dash, which nothing between them does.
  have dashless : ∀ byte ∈ block.data, byte ≠ 45 := by
    intro byte member
    rcases of_mem_data member with rfl | ⟨c, digit, rfl⟩
    · decide
    · exact digit.notDash
  have opening (text : Bytes) : cut? beginMark (beginMark ++ text) = some ([], text) :=
    cut?_append 45 rfl (fun _ => nofun : ∀ byte ∈ ([] : Bytes), byte ≠ 45)
  have labelled (text : Bytes) : cut? dashes (bytesOf block.label.toList ++ (dashes ++ text)) =
      some (bytesOf block.label.toList, text) :=
    cut?_append 45 rfl label.dashless
  have closing (text : Bytes) : cut? endMark (block.data ++ (endMark ++ text)) =
      some (block.data, text) :=
    cut?_append 45 rfl dashless
  unfold frame? Block.bytes
  simp only [List.append_assoc, List.cons_append, List.nil_append, opening, labelled,
    dropWhile_data, closing, Option.bind_eq_bind, Option.bind_some]
  rw [List.dropWhile_cons_of_pos (by decide)]
  rfl

end Read

end Issuance.Pem
