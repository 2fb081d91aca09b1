import Issuance.Proofs.Yaml.Plain
import Issuance.Proofs.Yaml.Quotes

/-! A text that is written between quotes is read back, with its folds, line ends and escapes. -/

namespace Issuance.Yaml

namespace Leaf

open Cursor (Quotes Solid)

theorem hasPair_append {a b : Char} (front : List Char) {cs : List Char}
    (none : hasPair a b (front ++ cs) = false) : hasPair a b cs = false := by
  induction front with
  | nil => exact none
  | cons c front ih =>
    refine ih ?_
    cases shape : front ++ cs with
    | nil => rfl
    | cons d rest =>
      rw [List.cons_append, shape] at none
      simp only [hasPair, List.tail_cons, List.zip_cons_cons, List.contains_cons,
        Bool.or_eq_false_iff] at none
      exact none.2

/-- Behind a run of one half of a pair that is not in a text the other half does not follow. -/
theorem ne_of_hasPair {a b : Char} {run cs : List Char} (filled : run ≠ []) (alike : ∀ c ∈ run, c = a)
    (none : hasPair a b (run ++ cs) = false) : ∀ d ∈ cs.head?, d ≠ b := by
  intro d member same
  -- The last character of the run and the one behind it would be the pair.
  obtain ⟨front, c, rfl⟩ := (List.eq_nil_or_concat run).resolve_left filled
  obtain ⟨rest, rfl⟩ := List.head?_eq_some_iff.mp member
  have pair : hasPair a b (c :: d :: rest) = false :=
    hasPair_append front (by simpa using none)
  rw [same, alike c (by simp)] at pair
  simp [hasPair] at pair

/-- Behind a run of spaces, or of line feeds, something else begins. -/
theorem solid_behind {kind : Nat} {run cs : List Char} (alike : ∀ c ∈ run, kindOf c = kind)
    (other : ∀ c ∈ cs.head?, kindOf c ≠ kind) (inked : ∀ c ∈ run ++ cs, Inked c)
    (before : hasPair ' ' '\n' (run ++ cs) = false) (behind : hasPair '\n' ' ' (run ++ cs) = false)
    (gap : ' ' ∈ run ∨ '\n' ∈ run) : ∀ c ∈ cs.head?, isGap c = false := by
  intro c member
  have filled : run ≠ [] := by
    rintro rfl
    rcases gap with gap | gap <;> cases gap
  have apart : c ≠ ' ' ∧ c ≠ '\n' := by
    -- The run excludes one of the two by its kind, and the other since the pair is not in the text.
    rcases gap with space | lineFeed
    · have only : ∀ d ∈ run, d = ' ' := fun d place =>
        eq_space ((alike d place).trans (alike ' ' space).symm)
      refine ⟨?_, ne_of_hasPair filled only before c member⟩
      rintro rfl
      exact other ' ' member (alike ' ' space)
    · have only : ∀ d ∈ run, d = '\n' := fun d place =>
        eq_lineFeed ((alike d place).trans (alike '\n' lineFeed).symm)
      refine ⟨ne_of_hasPair filled only behind c member, ?_⟩
      rintro rfl
      exact other '\n' member (alike '\n' lineFeed)
  have place : c ∈ run ++ cs := List.mem_append_right _ (List.mem_of_mem_head? member)
  exact ((inked c place).resolve_right apart.2).isGap apart.1

theorem doubledQuotes_cons (c : Char) (run : List Char) :
    doubledQuotes (c :: run) = (if c = '\'' then ['\'', '\''] else [c]) ++ doubledQuotes run := rfl

theorem solid_doubledQuotes {run back : List Char} (printed : ∀ c ∈ run, Printed c)
    (solid : ∀ c ∈ back.head?, isGap c = false) : Solid (doubledQuotes run ++ back) := by
  induction run with
  | nil => exact .of_head solid
  | cons c run ih =>
    rw [doubledQuotes_cons]
    split
    · exact .of_head (by rintro d ⟨⟩; decide)
    · by_cases space : c = ' '
      · rw [space]
        exact (ih fun d member => printed d (by simp [member])).space
      · refine .of_head ?_
        rintro d ⟨⟩
        exact (printed c (by simp)).isGap space

/-- A run of printed characters is read back from between single quotes. -/
theorem quotes_doubledQuotes {run back cs : List Char} {cursor last : Cursor}
    (printed : ∀ c ∈ run, Printed c)
    (solid : (∀ c ∈ run, c ≠ ' ') ∨ ∀ c ∈ back.head?, isGap c = false)
    (shape : cursor.rest = doubledQuotes run ++ back)
    (more : Quotes false (cursor.forward (doubledQuotes run).length) cs last) :
    Quotes false cursor (run ++ cs) last := by
  induction run generalizing cursor with
  | nil => exact more
  | cons c run ih =>
    have printed' : ∀ d ∈ run, Printed d := fun d member => printed d (by simp [member])
    have solid' := solid.imp (fun none d member => none d (List.mem_cons_of_mem _ member)) id
    rw [doubledQuotes_cons] at shape more
    by_cases quote : c = '\''
    · rw [if_pos quote] at shape more
      rw [quote]
      refine Quotes.pair shape (ih printed' solid' ?_ ?_)
      · rw [Cursor.forward_rest, shape]
        rfl
      · rw [← Cursor.forward_add, Nat.add_comm]
        exact more
    · rw [if_neg quote] at shape more
      have later : Quotes false cursor.step (run ++ cs) last :=
        ih printed' solid' (Cursor.step_cons shape) more
      by_cases space : c = ' '
      · rw [space] at shape ⊢
        have behind := solid.resolve_left fun none => none c (by simp) space
        exact Quotes.space shape (solid_doubledQuotes printed' behind) later
      · exact Quotes.ordinary shape ((printed c (by simp)).isGap space) quote nofun later

/-- Between single quotes what follows a gap begins with no gap. -/
theorem head_single {found : List (List Char)} (filled : ∀ run ∈ found, run ≠ [])
    (solid : ∀ c ∈ found.flatten.head?, isGap c = false) (column : Nat) (first : Bool)
    (back : List Char) :
    ∀ c ∈ (single column first found ++ '\'' :: back).head?, isGap c = false := by
  cases found with
  | nil => rintro c ⟨⟩; decide
  | cons run rest =>
    obtain ⟨d, run, rfl⟩ := List.exists_cons_of_ne_nil (filled run (by simp))
    have gap : isGap d = false := solid d rfl
    have lineFeed : d ≠ '\n' := by
      rintro rfl
      cases gap
    have space : d ≠ ' ' := by
      rintro rfl
      cases gap
    simp only [single, List.head?_cons, Option.some.injEq, if_neg lineFeed, List.cons.injEq, space,
      false_and, if_false, doubledQuotes_cons]
    split
    · rintro c ⟨⟩; decide
    · rintro c ⟨⟩; exact gap

theorem Alternating.filled {found : List (List Char)} (runs : Alternating found) :
    ∀ run ∈ found, run ≠ [] := by
  induction runs with
  | nil => exact nofun
  | cons filled _ _ _ ih => exact List.forall_mem_cons.mpr ⟨filled, ih⟩

theorem inked_of_mayBeSingle {cs : List Char} (simple : mayBeSingle cs = true) :
    (∀ c ∈ cs, Inked c) ∧ hasPair ' ' '\n' cs = false ∧ hasPair '\n' ' ' cs = false := by
  simp only [mayBeSingle, Bool.and_eq_true, Bool.not_eq_true'] at simple
  obtain ⟨⟨ordinary, before⟩, behind⟩ := simple
  refine ⟨fun c member => ?_, before, behind⟩
  by_cases lineFeed : c = '\n'
  · exact .inr lineFeed
  · exact .inl (printed_of_not_isSpecial
      (Bool.eq_false_iff.mpr (List.any_eq_false.mp ordinary c member)) lineFeed)

/-- A new line stands for a space, or for the line ends that are written before it. -/
theorem quotes_newLine {count : Nat} {next cs : List Char} {cursor last : Cursor}
    (shape : cursor.rest = (List.replicate count '\n' ++ newLine) ++ next)
    (solid : ∀ c ∈ next.head?, isGap c = false)
    (more : Quotes false (cursor.forward (List.replicate count '\n' ++ newLine).length) cs last) :
    Quotes false cursor (Cursor.folded '\n' (List.replicate count '\n') ++ cs) last := by
  -- The line end of the new line may as well come before the others.
  have lines : cursor.rest =
      '\n' :: (List.replicate count '\n' ++ (List.replicate (1 + 1) ' ' ++ next)) := by
    rw [shape, newLine, ← List.cons_append, ← List.replicate_succ, List.replicate_succ', indent]
    simp only [List.append_assoc, List.cons_append, List.nil_append]
  have size : (List.replicate count '\n' ++ newLine).length = 1 + (count + (1 + 1)) := by
    simp only [newLine, indent, List.length_append, List.length_cons, List.length_replicate]
    omega
  rw [size] at more
  exact Quotes.lines lines solid more

/-- A text between single quotes is read back. -/
theorem quotes_single {found : List (List Char)} (runs : Alternating found)
    (inked : ∀ c ∈ found.flatten, Inked c)
    (before : hasPair ' ' '\n' found.flatten = false)
    (behind : hasPair '\n' ' ' found.flatten = false) {back : List Char}
    (apart : back.head? ≠ some '\'') {column : Nat} {first : Bool} {cursor : Cursor}
    (shape : cursor.rest = single column first found ++ '\'' :: back) :
    Quotes false cursor found.flatten
      (cursor.forward ((single column first found).length + 1)) := by
  induction runs generalizing column first cursor with
  | nil => exact Quotes.close shape apart
  | @cons kind run rest filled alike other more ih =>
    rw [List.flatten_cons] at inked before behind ⊢
    have ih := @ih (fun c member => inked c (by simp [member])) (hasPair_append run before)
      (hasPair_append run behind)
    -- Whatever the run is written as, what stands behind it is read back.
    have later : ∀ {written : List Char} {column : Nat} {first : Bool},
        cursor.rest = written ++ (single column first rest ++ '\'' :: back) →
        Quotes false (cursor.forward written.length) rest.flatten
          (cursor.forward (written.length + ((single column first rest).length + 1))) := by
      intro written column first shape
      rw [Cursor.forward_add]
      exact ih (Cursor.forward_append shape)
    rw [single] at shape ⊢
    by_cases lineFeed : run.head? = some '\n'
    · rw [if_pos lineFeed] at shape ⊢
      -- The line ends of the text, and the one behind them, are one more than they stand for.
      have member := List.mem_of_mem_head? lineFeed
      have solid := solid_behind alike other inked before behind (.inr member)
      obtain ⟨count, rfl⟩ := exists_replicate filled fun c place =>
        eq_lineFeed ((alike c place).trans (alike '\n' member).symm)
      rw [List.append_assoc] at shape
      rw [List.length_append, Nat.add_assoc]
      exact quotes_newLine shape (head_single more.filled solid _ _ _) (later shape)
    · rw [if_neg lineFeed] at shape ⊢
      by_cases folds : run = [' '] ∧ width < column ∧ !first ∧ !rest.isEmpty
      · -- A space at which the line is folded is a line end that stands for it.
        rw [if_pos folds] at shape ⊢
        obtain ⟨rfl, -⟩ := folds
        have solid := solid_behind alike other inked before behind (.inl (by simp))
        rw [List.append_assoc] at shape
        rw [List.length_append, Nat.add_assoc]
        exact @quotes_newLine 0 _ _ _ _ shape (head_single more.filled solid _ _ _) (later shape)
      · -- Any other run stands as it is, but for its quotes.
        rw [if_neg folds] at shape ⊢
        have printed_run : ∀ c ∈ run, Printed c := fun c member =>
          (inked c (by simp [member])).resolve_right
            (ne_of_head (fun _ => eq_lineFeed) alike lineFeed c member)
        have solid : (∀ c ∈ run, c ≠ ' ') ∨
            ∀ c ∈ (single (column + (doubledQuotes run).length) false rest ++ '\'' :: back).head?,
              isGap c = false := by
          by_cases space : ' ' ∈ run
          · exact .inr (head_single more.filled
              (solid_behind alike other inked before behind (.inl space)) _ _ _)
          · exact .inl fun c member same => space (same ▸ member)
        rw [List.append_assoc] at shape
        rw [List.length_append, Nat.add_assoc]
        exact quotes_doubledQuotes printed_run solid shape (later shape)

/-- An escape is a letter, or a letter and as many digits as the code needs. -/
theorem escape?_eq_some {c : Char} {written : List Char} (escaped : escape? c = some written) :
    (∃ letter, (c, letter) ∈ letters ∧ written = ['\\', letter]) ∨
      ∃ mark width, (mark, width) ∈ Cursor.escapeWidths ∧ c.toNat < 16 ^ width ∧
        written = '\\' :: mark :: (Text.hexFixed width c.toNat).map Char.toUpper := by
  -- Eight digits are enough for any character, so the widest escape needs no further bound.
  have largest : c.toNat < 16 ^ 8 := by
    rcases c.valid with low | ⟨-, high⟩
    · exact Nat.lt_trans low (by decide)
    · exact Nat.lt_trans high (by decide)
  unfold escape? at escaped
  split at escaped
  · cases escaped
  · split at escaped
    · next letter found =>
      cases escaped
      obtain ⟨front, back, split, -⟩ := List.lookup_eq_some_iff.mp found
      exact .inl ⟨letter, by simp [split], rfl⟩
    · refine .inr ?_
      by_cases narrow : c.toNat ≤ 0xFF
      · rw [if_pos narrow] at escaped
        cases escaped
        exact ⟨'x', 2, by decide, Nat.lt_succ_of_le narrow, rfl⟩
      · rw [if_neg narrow] at escaped
        by_cases wide : c.toNat ≤ 0xFFFF
        · rw [if_pos wide] at escaped
          cases escaped
          exact ⟨'u', 4, by decide, Nat.lt_succ_of_le wide, rfl⟩
        · rw [if_neg wide] at escaped
          cases escaped
          exact ⟨'U', 8, by decide, largest, rfl⟩

/-- The escape of a character is a backslash, and what stands for the character behind one. -/
theorem escape_back {c : Char} {written : List Char} (escaped : escape? c = some written) :
    ∃ behind, written = '\\' :: behind ∧ ∀ {cursor : Cursor} {back : List Char},
      cursor.rest = behind ++ back → cursor.escape = .ok ([c], cursor.forward behind.length) := by
  rcases escape?_eq_some escaped with ⟨letter, member, rfl⟩ | ⟨mark, width, member, fits, rfl⟩
  · have known : ∀ entry ∈ letters, Cursor.escapedChars.lookup entry.2 = some entry.1 := by decide
    exact ⟨[letter], rfl, Cursor.escape_letter (known _ member)⟩
  · have known : ∀ entry ∈ Cursor.escapeWidths, Cursor.escapedChars.lookup entry.1 = none ∧
        Cursor.escapeWidths.lookup entry.1 = some entry.2 := by decide
    refine ⟨_, rfl, fun {cursor back} shape => ?_⟩
    rw [List.length_cons, List.length_map, Text.hexFixed_length]
    exact Cursor.escape_digits (known _ member).1 (known _ member).2 fits shape

/-- A character with an escape is read back. -/
theorem quotes_escaped {c : Char} {written back cs : List Char} {cursor last : Cursor}
    (escaped : escape? c = some written) (shape : cursor.rest = written ++ back)
    (more : Quotes true (cursor.forward written.length) cs last) :
    Quotes true cursor (c :: cs) last := by
  obtain ⟨behind, rfl, reads⟩ := escape_back escaped
  have rest : cursor.step.rest = behind ++ back := Cursor.step_cons shape
  refine Quotes.escape shape (reads rest) ?_ more
  rw [Cursor.forward_append rest, shape, List.length_append, List.length_cons]
  omega

/-- A character without an escape is printed, and no mark of this form. -/
theorem printed_of_unescaped {c : Char} (unescaped : escape? c = none) :
    Printed c ∧ c ≠ '"' ∧ c ≠ '\\' := by
  unfold escape? at unescaped
  split at unescaped
  · next plain => exact ⟨⟨plain.1, plain.2.1⟩, plain.2.2⟩
  · split at unescaped <;> cases unescaped

/-- How a text may be written between double quotes: with escapes, and folded anywhere. -/
inductive Doubled : List Char → List Char → Prop
  | nil : Doubled [] []
  | escaped {c : Char} {rest written more : List Char} : escape? c = some written →
      Doubled rest more → Doubled (c :: rest) (written ++ more)
  | ordinary {c : Char} {rest more : List Char} : escape? c = none →
      Doubled rest more → Doubled (c :: rest) (c :: more)
  | folded {rest more : List Char} : rest.head? ≠ some ' ' →
      Doubled rest more → Doubled rest ('\\' :: newLine ++ more)
  | foldedSpace {rest more : List Char} :
      Doubled rest more → Doubled (' ' :: rest) ('\\' :: newLine ++ '\\' :: ' ' :: more)

theorem unescaped_space : escape? ' ' = none := by decide

/-- A space that is written as itself leaves the rest of the text written. -/
theorem Doubled.of_space {rest more : List Char} (doubled : Doubled (' ' :: rest) (' ' :: more)) :
    Doubled rest more := by
  generalize shape : ' ' :: more = written at doubled
  cases doubled with
  | escaped escaped _ => cases unescaped_space.symm.trans escaped
  | ordinary _ doubled =>
    cases shape
    exact doubled
  | folded => cases shape
  | foldedSpace => cases shape

/-- Where to fold is decided by the column, and by what was written before. -/
theorem doubled_double (cs : List Char) (column : Nat) (first behindEscape : Bool) :
    Doubled cs (double column first behindEscape cs) := by
  -- The state of the writer is forgotten: whatever it is, one of the four ways is taken.
  induction cs generalizing column first behindEscape with
  | nil => exact .nil
  | cons c rest ih =>
    rw [double]
    split
    · next written escaped =>
      dsimp only
      split
      · unfold fold
        split
        · next space =>
          obtain ⟨rest, rfl⟩ := List.head?_eq_some_iff.mp space
          -- On a new line the space is not folded once more.
          have line : double (indent + 1) false true (' ' :: rest) =
              ' ' :: double (indent + 1 + 1) false false rest := by
            rw [double, unescaped_space]
            dsimp only
            rw [if_neg (fun folds => absurd folds.2.2 (by decide))]
          have more := (line ▸ ih (indent + 1) false true).of_space
          dsimp only
          rw [line, List.append_assoc, List.append_assoc]
          exact .escaped escaped more.foldedSpace
        · next other =>
          dsimp only
          rw [List.append_assoc]
          exact .escaped escaped (.folded other (ih _ _ _))
      · exact .escaped escaped (ih _ _ _)
    · next unescaped =>
      dsimp only
      split
      · unfold fold
        split
        · next space =>
          cases space
          dsimp only
          rw [List.append_assoc]
          exact (ih _ _ _).foldedSpace
        · next other => exact .folded other (.ordinary unescaped (ih _ _ _))
      · exact .ordinary unescaped (ih _ _ _)

/-- Between double quotes only a space that is not folded begins with a gap. -/
theorem Doubled.head {cs written : List Char} (doubled : Doubled cs written)
    (other : cs.head? ≠ some ' ') (back : List Char) :
    ∀ c ∈ (written ++ '"' :: back).head?, isGap c = false := by
  have slash : isGap '\\' = false := rfl
  cases doubled with
  | nil => rintro c ⟨⟩; decide
  | escaped escaped _ =>
    obtain ⟨behind, rfl, -⟩ := escape_back escaped
    rintro c ⟨⟩
    exact slash
  | @ordinary c _ _ unescaped _ =>
    have space : c ≠ ' ' := fun same => other (by rw [same]; rfl)
    rintro c ⟨⟩
    exact (printed_of_unescaped unescaped).1.isGap space
  | folded =>
    rintro c ⟨⟩
    exact slash
  | foldedSpace => exact absurd rfl other

theorem Doubled.solid {cs written : List Char} (doubled : Doubled cs written) (back : List Char) :
    Solid (written ++ '"' :: back) := by
  induction doubled with
  | nil => exact .of_head (Doubled.nil.head (by simp) back)
  | escaped escaped _ =>
    obtain ⟨behind, rfl, -⟩ := escape_back escaped
    exact .of_head (by rintro c ⟨⟩; decide)
  | @ordinary c _ _ unescaped doubled ih =>
    by_cases space : c = ' '
    · rw [space]
      exact ih.space
    · exact .of_head (by rintro c ⟨⟩; exact (printed_of_unescaped unescaped).1.isGap space)
  | folded => exact .of_head (by rintro c ⟨⟩; decide)
  | foldedSpace => exact .of_head (by rintro c ⟨⟩; decide)

/-- A text between double quotes is read back, wherever it is folded. -/
theorem Doubled.quotes {cs written : List Char} (doubled : Doubled cs written) {back : List Char}
    (apart : back.head? ≠ some '\'') {cursor : Cursor} (shape : cursor.rest = written ++ '"' :: back) :
    Quotes true cursor cs (cursor.forward (written.length + 1)) := by
  induction doubled generalizing cursor with
  | nil => exact Quotes.close shape apart
  | @escaped c rest written more escaped doubled ih =>
    rw [List.append_assoc] at shape
    refine quotes_escaped escaped shape ?_
    rw [List.length_append, Nat.add_assoc, Cursor.forward_add]
    exact ih (Cursor.forward_append shape)
  | @ordinary c rest more unescaped doubled ih =>
    have later : Quotes true cursor.step rest (cursor.step.forward (more.length + 1)) :=
      ih (Cursor.step_cons shape)
    obtain ⟨printed, quote, slash⟩ := printed_of_unescaped unescaped
    by_cases space : c = ' '
    · -- Spaces are read at once with those behind them, which is why no line may end there.
      rw [space] at shape ⊢
      exact Quotes.space shape (doubled.solid back) later
    · exact Quotes.ordinary shape (printed.isGap space) quote (fun _ => slash) later
  | @folded rest more other doubled ih =>
    rw [List.append_assoc] at shape
    refine Quotes.fold shape (doubled.head other back) ?_
    rw [List.length_append, Nat.add_assoc, Cursor.forward_add]
    exact ih (Cursor.forward_append shape)
  | @foldedSpace rest more doubled ih =>
    rw [List.append_assoc] at shape
    have behind := Cursor.forward_append shape
    refine Quotes.fold shape (by rintro c ⟨⟩; decide) (Quotes.escapedSpace behind ?_)
    rw [List.length_append, Nat.add_assoc, Cursor.forward_add]
    have later := @ih ((cursor.forward ('\\' :: newLine).length).forward 2)
      (by rw [Cursor.forward_rest, behind]; rfl)
    rw [← Cursor.forward_add _ 2] at later
    convert later using 2
    simp only [List.length_cons]
    omega

end Leaf

end Issuance.Yaml
