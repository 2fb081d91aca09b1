import Issuance.Proofs.Yaml.Quoted
import Issuance.Proofs.Yaml.Scalar

/-! The three forms in which a value is written: plain, or between quotes of either kind. -/

namespace Issuance.Yaml

open Numeral (Written)

namespace Leaf

/-- The form of a written value. What is plain is tagged by its text, and says that value. -/
inductive Form (leaf : Leaf) : List Char → Prop
  | plain {column : Nat} {found : List (List Char)} : Spaced found →
      startsMarked found.flatten = false →
      Node.scalarDatum (.ofPlain (String.ofList found.flatten)) (String.ofList found.flatten) =
        .ok leaf.datum → Form leaf (plain column found)
  | single {column : Nat} {s : String} : leaf = .text s → mayBeSingle s.toList = true →
      Form leaf ('\'' :: single column true (runs s.toList) ++ ['\''])
  | double {s : String} {written : List Char} : leaf = .text s → Doubled s.toList written →
      Form leaf ('"' :: written ++ ['"'])

/-- A number with a digit behind its sign is a word that begins like no mark. -/
theorem word_of_digit {negative : Bool} {d : Char} {rest : List Char} (digit : d.isDigit = true)
    (written : Written rest) :
    Word (hyphen negative ++ d :: rest) ∧ startsMarked (hyphen negative ++ d :: rest) = false := by
  have first := Numeral.mem_of_isDigit digit
  have all : Written (hyphen negative ++ d :: rest) := by
    refine (Numeral.written_hyphen negative).append (List.forall_mem_cons.mpr ⟨?_, written⟩)
    exact List.mem_append_left _ first
  have printed : ∀ c ∈ hyphen negative ++ d :: rest, Printed c ∧ c ≠ ' ' ∧ c ≠ '#' ∧ c ≠ ':' :=
    all.forall (by decide)
  constructor
  · exact {
      filled := by simp
      printed := fun c member => ⟨(printed c member).1, (printed c member).2.1⟩
      head := fun hash => (printed _ (List.mem_of_mem_head? hash)).2.2.1 rfl
      last := fun colon => (printed _ (List.mem_of_getLast? colon)).2.2.2 rfl }
  · have other : ∀ d ∈ ['0', '1', '2', '3', '4', '5', '6', '7', '8', '9'],
        "#,[]\x7b\x7d&*!|>'\"%@\x60".contains d = false ∧ "?:-".contains d = false ∧ d ≠ '-' ∧
          d ≠ '.' ∧ isGap d = false := by
      simp only [String.contains_char_eq]
      decide
    have sign : "#,[]\x7b\x7d&*!|>'\"%@\x60".contains '-' = false := by
      rw [String.contains_char_eq]
      decide
    obtain ⟨mark, lead, minus, point, gap⟩ := other d first
    -- Behind a hyphen there is a digit and no gap, so that it begins no list.
    cases negative with
    | false => simp [hyphen, startsMarked, mark, lead, minus, point]
    | true => simp [hyphen, startsMarked, sign, gapOrEnd, gap, minus]

/-- The words that are no numbers but are not quoted either. -/
theorem word_fixed {s : String} (member : s ∈ [".nan", "-.inf", ".inf", "true", "false"]) :
    Word s.toList ∧ startsMarked s.toList = false := by
  have words : ∀ s ∈ [".nan", "-.inf", ".inf", "true", "false"], s.toList ≠ [] ∧
      (∀ c ∈ s.toList, Printed c ∧ c ≠ ' ') ∧ s.toList.head? ≠ some '#' ∧
        s.toList.getLast? ≠ some ':' := by decide
  have marks : ∀ s ∈ [".nan", "-.inf", ".inf", "true", "false"],
      startsMarked s.toList = false := by
    simp only [List.forall_mem_cons, String.toList, startsMarked, String.contains_char_eq]
    decide
  obtain ⟨filled, printed, head, last⟩ := words s member
  exact ⟨⟨filled, printed, head, last⟩, marks s member⟩

/-- What is not a text is written as a word that begins like no mark. -/
theorem word_written {leaf : Leaf} (other : ∀ s, leaf ≠ .text s) (column : Nat) :
    Word (leaf.written column) ∧ startsMarked (leaf.written column) = false := by
  cases leaf with
  | text s => exact absurd rfl (other s)
  | int n =>
    obtain ⟨d, rest, shape⟩ := List.exists_cons_of_ne_nil (Nat.toDigits_ne_nil (n := n.natAbs) (b := 10))
    have digits : ∀ c ∈ d :: rest, c.isDigit = true := fun c member =>
      Numeral.isDigit_toDigits (shape ▸ member)
    rw [written, toString_int, shape]
    exact word_of_digit (digits d (by simp))
      (Numeral.written_of_digits fun c member => digits c (List.mem_cons_of_mem _ member))
  | float x =>
    cases x with
    | notANumber => exact word_fixed (by decide)
    | infinite negative => cases negative <;> exact word_fixed (by decide)
    | finite negative significand exponent canonical =>
      obtain ⟨p, text, -⟩ := ofDouble_finite negative canonical
      obtain ⟨d, rest, shape, digit⟩ := p.exists_head
      have all := p.written_text
      simp only [written, text]
      rw [Pointed.text, shape, List.append_assoc, List.cons_append] at all ⊢
      exact word_of_digit digit fun c member => all c (List.mem_cons_of_mem _ member)
  | bool b => cases b <;> exact word_fixed (by decide)

/-- Every value is written in one of the forms. -/
theorem form_written {leaf : Leaf} (writable : leaf.datum.isWritable = true) (column : Nat) :
    Form leaf (leaf.written column) := by
  by_cases isText : ∃ s, leaf = .text s
  · obtain ⟨s, rfl⟩ := isText
    simp only [written, ofText]
    split
    · next bare =>
      obtain ⟨spaced, unmarked, tag⟩ := spaced_of_mayBePlain bare
      refine .plain spaced (by rwa [flatten_runs]) ?_
      rw [flatten_runs, String.ofList_toList, tag]
      rfl
    · split
      · next simple => exact .single rfl simple
      · exact .double rfl (doubled_double _ _ _ _)
  · -- All other values are plain texts of a single word.
    have other : ∀ s, leaf ≠ .text s := fun s same => isText ⟨s, same⟩
    obtain ⟨isWord, unmarked⟩ := word_written other column
    have alone : plain 0 [leaf.written column] = leaf.written column := by
      rw [plain_word isWord, plain, List.append_nil]
    have form : Form leaf (plain 0 [leaf.written column]) := by
      refine .plain (.last isWord) ?_ ?_
      · rwa [List.flatten_singleton]
      · rw [List.flatten_singleton]
        exact word_back other writable column
    rwa [alone] at form

theorem inked_newLine : ∀ c ∈ newLine, Inked c := by decide

theorem Spaced.inked {found : List (List Char)} (spaced : Spaced found) (column : Nat) :
    ∀ c ∈ plain column found, Inked c := by
  induction spaced generalizing column with
  | last isWord =>
    rw [plain_word isWord, plain, List.append_nil]
    exact fun c member => .inl (isWord.printed c member).1
  | more count isWord spaced ih =>
    have spaces : ∀ c ∈ List.replicate (count + 1) ' ', Inked c := fun c member => by
      rw [List.eq_of_mem_replicate member]
      decide
    rw [plain_word isWord, plain]
    refine List.forall_mem_append.mpr ⟨fun c member => .inl (isWord.printed c member).1, ?_⟩
    split
    · exact List.forall_mem_append.mpr ⟨inked_newLine, ih _⟩
    · exact List.forall_mem_append.mpr ⟨spaces, ih _⟩

theorem inked_single {found : List (List Char)} (inked : ∀ c ∈ found.flatten, Inked c)
    (column : Nat) (first : Bool) : ∀ c ∈ single column first found, Inked c := by
  induction found generalizing column first with
  | nil => exact nofun
  | cons run rest ih =>
    obtain ⟨inked_run, inked_rest⟩ := List.forall_mem_append.mp inked
    have inked_doubled : ∀ c ∈ doubledQuotes run, Inked c := by
      intro c member
      obtain ⟨d, place, image⟩ := List.mem_flatMap.mp member
      split at image
      · rcases List.mem_pair.mp image with rfl | rfl <;> exact .inl (by decide)
      · rw [List.mem_singleton.mp image]
        exact inked_run d place
    rw [single]
    -- Line ends and what folds go on with a new line, and all else stands by itself.
    split
    · exact List.forall_mem_append.mpr
        ⟨List.forall_mem_append.mpr ⟨inked_run, inked_newLine⟩, ih inked_rest _ _⟩
    · split
      · exact List.forall_mem_append.mpr ⟨inked_newLine, ih inked_rest _ _⟩
      · exact List.forall_mem_append.mpr ⟨inked_doubled, ih inked_rest _ _⟩

theorem printed_escape {c : Char} {written : List Char} (escaped : escape? c = some written) :
    ∀ d ∈ written, Printed d := by
  have known : ∀ entry ∈ letters, Printed entry.2 := by decide
  have marks : ∀ entry ∈ Cursor.escapeWidths, Printed entry.1 := by decide
  have digit : ∀ value < 16, Printed (Text.hexDigit value).toUpper := by decide
  have digits : ∀ (width value : Nat), ∀ d ∈ (Text.hexFixed width value).map Char.toUpper,
      Printed d := by
    intro width
    induction width with
    | zero => exact fun _ => nofun
    | succ width ih =>
      intro value
      rw [Text.hexFixed, List.map_append]
      exact List.forall_mem_append.mpr
        ⟨ih _, List.forall_mem_singleton.mpr (digit _ (Nat.mod_lt _ (by decide)))⟩
  have slash : Printed '\\' := by decide
  rcases escape?_eq_some escaped with ⟨letter, member, rfl⟩ | ⟨mark, width, member, -, rfl⟩
  · exact List.forall_mem_cons.mpr ⟨slash, List.forall_mem_singleton.mpr (known _ member)⟩
  · exact List.forall_mem_cons.mpr ⟨slash,
      List.forall_mem_cons.mpr ⟨marks _ member, digits width c.toNat⟩⟩

theorem Doubled.inked {cs written : List Char} (doubled : Doubled cs written) :
    ∀ c ∈ written, Inked c := by
  have fold : ∀ c ∈ '\\' :: newLine, Inked c :=
    List.forall_mem_cons.mpr ⟨.inl (by decide), inked_newLine⟩
  induction doubled with
  | nil => exact nofun
  | escaped escaped _ ih =>
    exact List.forall_mem_append.mpr ⟨fun c member => .inl (printed_escape escaped c member), ih⟩
  | ordinary unescaped _ ih =>
    exact List.forall_mem_cons.mpr ⟨.inl (printed_of_unescaped unescaped).1, ih⟩
  | folded _ _ ih => exact List.forall_mem_append.mpr ⟨fold, ih⟩
  | foldedSpace _ ih =>
    exact List.forall_mem_append.mpr
      ⟨fold, List.forall_mem_cons.mpr ⟨by decide, List.forall_mem_cons.mpr ⟨by decide, ih⟩⟩⟩

/-- A value is written with printed characters and line feeds alone. -/
theorem Form.inked {leaf : Leaf} {written : List Char} (form : Form leaf written) :
    ∀ c ∈ written, Inked c := by
  -- Between quotes it is what stands between them that counts.
  have quoted : ∀ {mark : Char} {body : List Char}, Inked mark → (∀ c ∈ body, Inked c) →
      ∀ c ∈ mark :: body ++ [mark], Inked c := by
    intro mark body marked inked
    exact List.forall_mem_append.mpr
      ⟨List.forall_mem_cons.mpr ⟨marked, inked⟩, List.forall_mem_singleton.mpr marked⟩
  cases form with
  | plain spaced _ _ => exact spaced.inked _
  | @single column s _ simple =>
    refine quoted (by decide) (inked_single ?_ _ _)
    rw [flatten_runs]
    exact (inked_of_mayBeSingle simple).1
  | double _ doubled => exact quoted (by decide) doubled.inked

end Leaf

end Issuance.Yaml
