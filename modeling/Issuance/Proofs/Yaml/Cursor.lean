import Issuance.Yaml.Cursor
import Mathlib.Data.List.TakeWhile

/-! Going forward in a text that is known by its parts. -/

namespace Issuance.Yaml

/-- A printed ASCII character. -/
def Printed (c : Char) : Prop := 0x20 ≤ c.toNat ∧ c.toNat ≤ 0x7E

instance (c : Char) : Decidable (Printed c) := inferInstanceAs (Decidable (_ ∧ _))

theorem Printed.ne {c d : Char} (printed : Printed c) (other : ¬Printed d) : c ≠ d := by
  rintro rfl
  exact other printed

theorem Printed.isBreak {c : Char} (printed : Printed c) : isBreak c = false := by
  simp only [Yaml.isBreak, Bool.or_eq_false_iff, beq_eq_false_iff_ne]
  exact ⟨⟨⟨printed.ne (by decide), printed.ne (by decide)⟩, printed.ne (by decide)⟩,
    printed.ne (by decide)⟩

theorem Printed.isGap {c : Char} (printed : Printed c) (other : c ≠ ' ') : isGap c = false := by
  simp only [Yaml.isGap, printed.isBreak, Bool.or_false, Bool.or_eq_false_iff, beq_eq_false_iff_ne]
  exact ⟨other, printed.ne (by decide)⟩

/-- A character that a text is made of when it is written: a printed one, or a line feed. -/
def Inked (c : Char) : Prop := Printed c ∨ c = '\n'

instance (c : Char) : Decidable (Inked c) := inferInstanceAs (Decidable (_ ∨ _))

namespace Cursor

variable {cursor : Cursor} {c : Char} {front back : List Char}

theorem step_rest (cursor : Cursor) : cursor.step.rest = cursor.rest.tail := by
  unfold step
  split
  · next shape => rw [shape]; rfl
  · next shape => split <;> rw [shape] <;> rfl

theorem step_cons (shape : cursor.rest = c :: back) : cursor.step.rest = back := by
  rw [step_rest, shape, List.tail_cons]

theorem peek_cons (shape : cursor.rest = c :: back) : cursor.peek = some c := by
  rw [peek, shape, List.head?_cons]

/-- Going forward leaves what stands behind. -/
theorem forward_rest (cursor : Cursor) (count : Nat) :
    (cursor.forward count).rest = cursor.rest.drop count := by
  induction count generalizing cursor with
  | zero => rfl
  | succ count ih => rw [forward, ih, step_rest, List.drop_tail]

theorem forward_add (cursor : Cursor) (first second : Nat) :
    cursor.forward (first + second) = (cursor.forward first).forward second := by
  induction first generalizing cursor with
  | zero => rw [Nat.zero_add]; rfl
  | succ first ih => rw [Nat.succ_add, forward, ih, forward]

theorem forward_step (cursor : Cursor) (count : Nat) :
    (cursor.forward count).step = cursor.forward (count + 1) := (forward_add cursor count 1).symm

theorem forward_append (shape : cursor.rest = front ++ back) :
    (cursor.forward front.length).rest = back := by
  rw [forward_rest, shape, List.drop_left]

theorem forward_replicate {count : Nat} (shape : cursor.rest = List.replicate count c ++ back) :
    (cursor.forward count).rest = back := by
  have behind := forward_append shape
  rwa [List.length_replicate] at behind

/-- Printed characters take a column each and stay on the line. -/
theorem forward_printed (shape : cursor.rest = front ++ back) (printed : ∀ c ∈ front, Printed c) :
    cursor.forward front.length = {
      rest := back
      index := cursor.index + front.length
      line := cursor.line
      column := cursor.column + front.length } := by
  induction front generalizing cursor with
  | nil =>
    rw [List.nil_append] at shape
    rw [← shape]
    rfl
  | cons c front ih =>
    have first := printed c (by simp)
    -- The one character besides the breaks that takes no column is the byte order mark.
    have mark : c ≠ '\uFEFF' := first.ne (by decide)
    have next : cursor.step =
        ⟨front ++ back, cursor.index + 1, cursor.line, cursor.column + 1⟩ := by
      simp only [step, shape, List.cons_append, first.isBreak, if_neg mark, Bool.false_eq_true,
        if_false]
    rw [List.length_cons, forward, next, ih rfl fun c member => printed c (by simp [member])]
    simp only [mk.injEq, true_and]
    omega

/-- A line feed ends the line. -/
theorem step_lineFeed (shape : cursor.rest = '\n' :: back) :
    cursor.step = ⟨back, cursor.index + 1, cursor.line + 1, 0⟩ := by
  simp [step, shape, isBreak]

theorem column_lineFeed (shape : cursor.rest = front ++ '\n' :: back) :
    (cursor.forward (front.length + 1)).column = 0 := by
  rw [forward_add]
  exact congrArg column (step_lineFeed (forward_append shape))

/-- Spaces take a column each. -/
theorem column_spaces {count : Nat} (shape : cursor.rest = List.replicate count ' ' ++ back) :
    (cursor.forward count).column = cursor.column + count := by
  have after := forward_printed shape fun c member => by
    rw [List.eq_of_mem_replicate member]
    decide
  rw [List.length_replicate] at after
  rw [after]

/-- Spaces behind a line feed indent the next line. -/
theorem column_indented {count : Nat} (shape : cursor.rest = '\n' :: (List.replicate count ' ' ++ back)) :
    (cursor.forward (count + 1)).column = count := by
  rw [forward, column_spaces (step_cons shape), step_lineFeed shape, Nat.zero_add]

theorem span_append {keep : Char → Bool} (shape : cursor.rest = front ++ back)
    (all : ∀ c ∈ front, keep c = true) (stops : ∀ c ∈ back.head?, keep c = false) :
    cursor.span keep = (front, cursor.forward front.length) := by
  -- Nothing behind the front is taken, so that the longest prefix is the front itself.
  have none : back.takeWhile keep = [] := by
    cases back with
    | nil => rfl
    | cons c back => rw [List.takeWhile_cons_of_neg (by simp [stops c rfl])]
  have found : cursor.rest.takeWhile keep = front := by
    rw [shape, List.takeWhile_append_of_pos all, none, List.append_nil]
  simp only [span, found]

/-- Spaces are taken all at once, whatever else may be among what is taken. -/
theorem span_spaces {keep : Char → Bool} {count : Nat} (space : keep ' ' = true)
    (shape : cursor.rest = List.replicate count ' ' ++ back)
    (stops : ∀ c ∈ back.head?, keep c = false) :
    cursor.span keep = (List.replicate count ' ', cursor.forward count) := by
  have all : ∀ c ∈ List.replicate count ' ', keep c = true := fun c member => by
    rwa [List.eq_of_mem_replicate member]
  have found := span_append shape all stops
  rwa [List.length_replicate] at found

theorem span_none {keep : Char → Bool} (stops : ∀ c ∈ cursor.rest.head?, keep c = false) :
    cursor.span keep = ([], cursor) :=
  @span_append cursor [] _ keep rfl nofun stops

theorem skip_spaces {drop : Char → Bool} {count : Nat} (space : drop ' ' = true)
    (shape : cursor.rest = List.replicate count ' ' ++ back)
    (stops : ∀ c ∈ back.head?, drop c = false) : cursor.skip drop = cursor.forward count := by
  rw [skip, span_spaces space shape stops]

theorem skip_none {drop : Char → Bool} (stops : ∀ c ∈ cursor.rest.head?, drop c = false) :
    cursor.skip drop = cursor := by
  rw [skip, span_none stops]

theorem lineBreak?_lineFeed (shape : cursor.rest = '\n' :: back) :
    cursor.lineBreak? = some ('\n', cursor.step) := by
  simp [lineBreak?, peek, shape, isBreak]

theorem lineBreak?_none (other : ∀ c ∈ cursor.rest.head?, isBreak c = false) :
    cursor.lineBreak? = none := by
  unfold lineBreak? peek
  split
  · next c shape => simp [other c shape]
  · rfl

theorem atSeparator_false (other : ∀ c ∈ cursor.rest.head?, c ≠ '-' ∧ c ≠ '.') :
    cursor.atSeparator = false := by
  unfold atSeparator
  cases shape : cursor.rest with
  | nil => rfl
  | cons c rest =>
    obtain ⟨hyphen, point⟩ := other c (by rw [shape]; rfl)
    simp [hyphen, point]

end Cursor

end Issuance.Yaml
