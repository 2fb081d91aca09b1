import Issuance.Proofs.Yaml.Cursor
import Issuance.Yaml.Printer
import Issuance.Yaml.Token
import Mathlib.Tactic.Ring

/-! What stands between quotes is read piece by piece: characters, pairs of quotes, escapes and line ends. -/

namespace Issuance

namespace Text

theorem hexFixed_length (width value : Nat) : (hexFixed width value).length = width := by
  induction width generalizing value with
  | zero => rfl
  | succ width ih => rw [hexFixed, List.length_append, ih, List.length_singleton]

/-- Hexadecimal digits are read back in upper case, as far as the width goes. -/
theorem hexNumber?_hexFixed (width value : Nat) :
    hexNumber? ((hexFixed width value).map Char.toUpper) = some (value % 16 ^ width) := by
  induction width generalizing value with
  | zero => rw [Nat.pow_zero, Nat.mod_one]; rfl
  | succ width ih =>
    have front := ih (value / 16)
    unfold hexNumber? at front ⊢
    -- The digits in front are those of the number without its last one.
    rw [hexFixed, List.map_append, List.foldlM_append, front]
    simp only [List.map_cons, List.map_nil, List.foldlM_cons, List.foldlM_nil, Option.bind_eq_bind,
      Option.bind_some, hexValue?_toUpper_hexDigit _ (Nat.mod_lt value (by decide : 0 < 16)),
      Option.map_some, Option.pure_def, Nat.pow_succ']
    rw [Nat.mod_mul, Nat.add_comm]

end Text

namespace Yaml

namespace Cursor

/-- What stands between quotes from a place on is read as a text, up to a place behind them. -/
def Quotes (double : Bool) (cursor : Cursor) (cs : List Char) (last : Cursor) : Prop :=
  ∀ fuel, cursor.rest.length < fuel → cursor.quoted double fuel = .ok (cs, last)

/-- Spaces, if any, and behind them no tab or line end. -/
def Solid (cs : List Char) : Prop :=
  ∃ count rest, cs = List.replicate count ' ' ++ rest ∧ ∀ c ∈ rest.head?, isGap c = false

theorem Solid.of_head {cs : List Char} (solid : ∀ c ∈ cs.head?, isGap c = false) : Solid cs :=
  ⟨0, cs, rfl, solid⟩

theorem Solid.space {cs : List Char} : Solid cs → Solid (' ' :: cs)
  | ⟨count, rest, shape, solid⟩ => ⟨count + 1, rest, by rw [shape]; rfl, solid⟩

section Quotes

variable {double : Bool} {cursor last : Cursor} {cs back : List Char} {c : Char}

/-- The quote that a text ends with. -/
def quoteMark (double : Bool) : Char := if double then '"' else '\''

theorem Quotes.of_fuel (reads : ∀ fuel, cursor.rest.length ≤ fuel →
    cursor.quoted double (fuel + 1) = .ok (cs, last)) : Quotes double cursor cs last := by
  intro fuel enough
  obtain ⟨fuel, rfl⟩ : ∃ less, fuel = less + 1 := ⟨fuel - 1, by omega⟩
  exact reads fuel (by omega)

/-- What stands further on is read with the fuel that is left. -/
theorem Quotes.rest {count fuel : Nat} (more : Quotes double (cursor.forward count) cs last)
    (positive : 0 < count) (shape : cursor.rest = c :: back) (enough : cursor.rest.length ≤ fuel) :
    (cursor.forward count).quoted double fuel = .ok (cs, last) := by
  refine more fuel ?_
  rw [forward_rest, List.length_drop]
  rw [shape, List.length_cons] at enough ⊢
  omega

theorem Quotes.close (shape : cursor.rest = quoteMark double :: back)
    (apart : back.head? ≠ some '\'') : Quotes double cursor [] cursor.step := by
  refine .of_fuel fun fuel _ => ?_
  unfold quoted
  rw [shape]
  cases double <;> simp [quoteMark, apart]

/-- A character that is none of the marks stands for itself. -/
theorem Quotes.ordinary (shape : cursor.rest = c :: back) (solid : isGap c = false)
    (quote : c ≠ quoteMark double) (escape : double = true → c ≠ '\\')
    (more : Quotes double cursor.step cs last) : Quotes double cursor (c :: cs) last := by
  refine .of_fuel fun fuel enough => ?_
  have rest : (cursor.forward 1).quoted double fuel = .ok (cs, last) :=
    more.rest (by decide) shape enough
  -- The reader asks for a pair of quotes, the quote at the end, a backslash and a gap, in turn.
  have apart : (c == if double then '"' else '\'') = false := beq_eq_false_iff_ne.mpr quote
  have pair : (!double && c == '\'' && back.head? == some '\'') = false := by
    cases double with
    | true => rfl
    | false => rw [beq_eq_false_iff_ne.mpr (show c ≠ '\'' from quote)]; rfl
  have slash : (double && c == '\\') = false := by
    cases double with
    | true => exact beq_eq_false_iff_ne.mpr (escape rfl)
    | false => rfl
  rw [quoted, shape]
  simp only [pair, apart, slash, solid, Bool.false_eq_true, if_false]
  rw [show cursor.step = cursor.forward 1 from rfl, rest]
  rfl

/-- Two single quotes stand for one. -/
theorem Quotes.pair (shape : cursor.rest = '\'' :: '\'' :: back)
    (more : Quotes false (cursor.forward 2) cs last) : Quotes false cursor ('\'' :: cs) last := by
  refine .of_fuel fun fuel enough => ?_
  unfold quoted
  rw [shape]
  simp only [Bool.not_false, List.head?_cons, beq_self_eq_true, Bool.and_self, if_true,
    more.rest (by decide) shape enough]
  rfl

/-- What a backslash and the characters behind it stand for. -/
theorem Quotes.escape {meant : List Char} {after : Cursor} (shape : cursor.rest = '\\' :: back)
    (found : cursor.step.escape = .ok (meant, after))
    (shorter : after.rest.length < cursor.rest.length)
    (more : Quotes true after cs last) : Quotes true cursor (meant ++ cs) last := by
  refine .of_fuel fun fuel enough => ?_
  unfold quoted
  rw [shape]
  simp [found, more fuel (by omega), bind, Except.bind, pure, Except.pure]

theorem blank_of_isGap (solid : isGap c = false) :
    (c == ' ' || c == '\t') = false ∧ isBreak c = false := Bool.or_eq_false_iff.mp solid

/-- What is a gap is none of the marks of a text between quotes. -/
theorem marks_of_isGap (gap : isGap c = true) (double : Bool) :
    (c == '\'') = false ∧ (c == '\\') = false ∧ (c == if double then '"' else '\'') = false := by
  -- None of the marks is a gap itself.
  have apart : ∀ {mark : Char}, isGap mark = false → (c == mark) = false := by
    intro mark solid
    rw [beq_eq_false_iff_ne]
    rintro rfl
    rw [gap] at solid
    cases solid
  refine ⟨apart rfl, apart rfl, ?_⟩
  cases double <;> exact apart rfl

/-- Spaces that no line end follows are read at once. -/
theorem quoted_spaces {count : Nat} (shape : cursor.rest = List.replicate (count + 1) ' ' ++ back)
    (solid : ∀ c ∈ back.head?, isGap c = false) (fuel : Nat) :
    cursor.quoted double (fuel + 1) =
      (fun found => (List.replicate (count + 1) ' ' ++ found.1, found.2)) <$>
        (cursor.forward (count + 1)).quoted double fuel := by
  have blanks := @span_spaces cursor back (fun c => c == ' ' || c == '\t') _ rfl shape
    fun c member => (blank_of_isGap (solid c member)).1
  have inline : (cursor.forward (count + 1)).lineBreak? = none := by
    refine lineBreak?_none fun c member => ?_
    rw [forward_replicate shape] at member
    exact (blank_of_isGap (solid c member)).2
  have first : cursor.rest = ' ' :: (List.replicate count ' ' ++ back) := shape
  have gap : isGap ' ' = true := rfl
  obtain ⟨single, slash, apart⟩ := marks_of_isGap gap double
  rw [quoted, first]
  simp only [single, slash, apart, gap, blanks, inline, Bool.and_false, Bool.false_and,
    Bool.false_eq_true, if_false, if_true]
  cases (cursor.forward (count + 1)).quoted double fuel <;> rfl

/-- A space stands for itself, if what stands behind it is not the end of a line. -/
theorem Quotes.space (shape : cursor.rest = ' ' :: back) (solid : Solid back)
    (more : Quotes double cursor.step cs last) : Quotes double cursor (' ' :: cs) last := by
  refine .of_fuel fun fuel enough => ?_
  obtain ⟨count, rest, rfl, solid⟩ := solid
  rw [@quoted_spaces _ _ _ count shape solid]
  cases count with
  | zero =>
    have rest : (cursor.forward 1).quoted double fuel = .ok (cs, last) :=
      more.rest (by decide) shape enough
    rw [rest]
    rfl
  | succ count =>
    -- The spaces behind this one are read in the same step as it.
    have behind : cursor.step.rest = List.replicate (count + 1) ' ' ++ rest := step_cons shape
    have later := more (fuel + 1) (by rw [step_rest, List.length_tail]; omega)
    rw [quoted_spaces behind solid] at later
    change _ <$> (cursor.step.forward (count + 1)).quoted double fuel = _
    cases found : (cursor.step.forward (count + 1)).quoted double fuel with
    | error _ => rw [found] at later; cases later
    | ok found =>
      rw [found] at later
      cases later
      rfl

/-- Line ends, and the spaces that indent the line behind them. -/
theorem quotedBreaks_lineFeeds {count spaces fuel : Nat}
    (shape : cursor.rest =
      List.replicate count '\n' ++ (List.replicate (spaces + 1) ' ' ++ back))
    (solid : ∀ c ∈ back.head?, isGap c = false) (enough : count < fuel) :
    cursor.quotedBreaks fuel =
      .ok (List.replicate count '\n', cursor.forward (count + (spaces + 1))) := by
  induction fuel generalizing cursor count with
  | zero => omega
  | succ fuel ih =>
    have separator : cursor.atSeparator = false := by
      refine atSeparator_false ?_
      rw [shape]
      cases count <;> (rintro c ⟨⟩; decide)
    unfold quotedBreaks
    simp only [separator, Bool.false_eq_true, if_false]
    cases count with
    | zero =>
      -- The spaces of the last line are passed over, and no line ends behind them.
      rw [List.replicate_zero, List.nil_append] at shape
      have skipped := @skip_spaces cursor back (fun c => c == ' ' || c == '\t') _ rfl shape
        fun c member => (blank_of_isGap (solid c member)).1
      have inline : (cursor.forward (spaces + 1)).lineBreak? = none := by
        refine lineBreak?_none fun c member => ?_
        rw [forward_replicate shape] at member
        exact (blank_of_isGap (solid c member)).2
      simp only [skipped, inline, Nat.zero_add]
      rfl
    | succ count =>
      have skipped : cursor.skip (fun c => c == ' ' || c == '\t') = cursor :=
        skip_none (by rw [shape]; rintro c ⟨⟩; decide)
      have rest : cursor.step.rest =
          List.replicate count '\n' ++ (List.replicate (spaces + 1) ' ' ++ back) := step_cons shape
      simp only [skipped, lineBreak?_lineFeed shape, ih rest (by omega)]
      rw [Nat.succ_add]
      rfl

/-- Line ends between quotes are one more than they stand for, and a single one is a space. -/
theorem Quotes.lines {count spaces : Nat} (shape : cursor.rest =
      '\n' :: (List.replicate count '\n' ++ (List.replicate (spaces + 1) ' ' ++ back)))
    (solid : ∀ c ∈ back.head?, isGap c = false)
    (more : Quotes double (cursor.forward (1 + (count + (spaces + 1)))) cs last) :
    Quotes double cursor (folded '\n' (List.replicate count '\n') ++ cs) last := by
  refine .of_fuel fun fuel enough => ?_
  have rest := step_cons shape
  have blanks : cursor.span (fun c => c == ' ' || c == '\t') = ([], cursor) :=
    span_none (by rw [shape]; rintro c ⟨⟩; decide)
  have breaks := @quotedBreaks_lineFeeds cursor.step back count spaces
    (cursor.step.rest.length + 1) rest solid (by
      rw [rest, List.length_append, List.length_replicate]
      omega)
  have later : (cursor.step.forward (count + (spaces + 1))).quoted double fuel = .ok (cs, last) := by
    have := more.rest (by omega) shape enough
    rwa [forward_add] at this
  have gap : isGap '\n' = true := rfl
  obtain ⟨single, slash, apart⟩ := marks_of_isGap gap double
  rw [quoted, shape]
  simp only [single, slash, apart, gap, blanks, lineBreak?_lineFeed shape, Bool.and_false,
    Bool.false_and, Bool.false_eq_true, if_false, if_true, breaks]
  change (cursor.step.forward (count + (spaces + 1))).quoted double fuel >>= _ = _
  rw [later]
  rfl

end Quotes

section Escapes

variable {cursor : Cursor} {back : List Char} {mark c : Char}

/-- A letter behind a backslash stands for its character. -/
theorem escape_letter (known : escapedChars.lookup mark = some c)
    (shape : cursor.rest = mark :: back) : cursor.escape = .ok ([c], cursor.forward 1) := by
  have first := peek_cons shape
  unfold escape
  simp only [first, known]
  rfl

/-- The digits behind a backslash and a letter stand for the character with that code. -/
theorem escape_digits {width : Nat} (unknown : escapedChars.lookup mark = none)
    (known : escapeWidths.lookup mark = some width) (fits : c.toNat < 16 ^ width)
    (shape : cursor.rest = mark :: ((Text.hexFixed width c.toNat).map Char.toUpper ++ back)) :
    cursor.escape = .ok ([c], cursor.forward (width + 1)) := by
  have first := peek_cons shape
  have length : ((Text.hexFixed width c.toNat).map Char.toUpper).length = width := by
    rw [List.length_map, Text.hexFixed_length]
  have digits : cursor.step.rest.take width = (Text.hexFixed width c.toNat).map Char.toUpper := by
    rw [step_cons shape]
    exact List.take_left' length
  have valid : c.toNat.isValidChar := c.valid
  unfold escape
  simp only [first, unknown, known, digits, length, Nat.lt_irrefl, if_false,
    Text.hexNumber?_hexFixed, Nat.mod_eq_of_lt fits, if_pos valid, Char.ofNat_toNat]
  rfl

/-- A fold behind a backslash stands for nothing. -/
theorem escape_lineFeed {spaces : Nat}
    (shape : cursor.rest = '\n' :: (List.replicate (spaces + 1) ' ' ++ back))
    (solid : ∀ c ∈ back.head?, isGap c = false) :
    cursor.escape = .ok ([], cursor.forward (spaces + 1 + 1)) := by
  have first := peek_cons shape
  have unknown : escapedChars.lookup '\n' = none := by decide
  have widthless : escapeWidths.lookup '\n' = none := by decide
  have rest : cursor.step.rest = List.replicate (spaces + 1) ' ' ++ back := step_cons shape
  have breaks := @quotedBreaks_lineFeeds cursor.step back 0 spaces
    (cursor.step.rest.length + 1) rest solid (by omega)
  unfold escape
  simp only [first, unknown, widthless, lineBreak?_lineFeed shape, breaks]
  rw [Nat.zero_add]
  rfl

/-- A fold goes on with the text on the next line. -/
theorem Quotes.fold {cs : List Char} {last : Cursor}
    (shape : cursor.rest = '\\' :: Leaf.newLine ++ back) (solid : ∀ c ∈ back.head?, isGap c = false)
    (more : Quotes true (cursor.forward ('\\' :: Leaf.newLine).length) cs last) :
    Quotes true cursor cs last := by
  have rest : cursor.step.rest = '\n' :: (List.replicate (1 + 1) ' ' ++ back) := step_cons shape
  refine Quotes.escape shape (escape_lineFeed rest solid) ?_ more
  rw [forward_rest, rest, shape]
  simp [Leaf.newLine]
  omega

/-- Behind a fold a space has a backslash before it. -/
theorem Quotes.escapedSpace {cs : List Char} {last : Cursor}
    (shape : cursor.rest = '\\' :: ' ' :: back) (more : Quotes true (cursor.forward 2) cs last) :
    Quotes true cursor (' ' :: cs) last := by
  have rest := step_cons shape
  refine Quotes.escape shape (escape_letter (c := ' ') (by decide) rest) ?_ more
  rw [forward_rest, rest, shape, List.drop_one, List.tail_cons, List.length_cons, List.length_cons]
  omega

end Escapes

end Cursor

end Yaml

end Issuance
