import Issuance.Proofs.Pointed
import Issuance.Yaml.Reader
import Mathlib.Data.List.TakeWhile

/-! Numbers and truth values that are written plainly are read back as what they were. -/

namespace Issuance

namespace Text

/-- What is said of the characters of a list is checked along the list, not along all there are. -/
instance (priority := 2000) decidableForallMem {P : Char → Prop} [DecidablePred P] (cs : List Char) :
    Decidable (∀ c ∈ cs, P c) := List.decidableBAll P cs

/-- A character that may be missing is looked at if it is there. -/
instance (priority := 2000) decidableForallMem? {P : Char → Prop} [DecidablePred P]
    (c? : Option Char) : Decidable (∀ c ∈ c?, P c) := Option.decidableForallMem c?

end Text

/-- A text is another one only if both begin alike. -/
theorem ofList_ne_of_head {cs : List Char} {s : String} (apart : cs.head? ≠ s.toList.head?) :
    String.ofList cs ≠ s := by
  rintro rfl
  exact apart (by rw [String.toList_ofList])

/-- Trimming keeps a text without anything to drop. -/
theorem Text.trimList_of_none {drop : Char → Bool} {cs : List Char}
    (none : ∀ c ∈ cs, drop c = false) : trimList drop cs = cs := by
  have keep : ∀ {cs : List Char}, (∀ c ∈ cs, drop c = false) → cs.dropWhile drop = cs := by
    intro cs none
    cases cs with
    | nil => rfl
    | cons c rest => rw [List.dropWhile_cons_of_neg (by simp [none c (by simp)])]
  rw [trimList, keep none, keep (fun c member => none c (List.mem_reverse.mp member)),
    List.reverse_reverse]

namespace Numeral

/-- The characters that numbers are written with. -/
def characters : List Char :=
  ['0', '1', '2', '3', '4', '5', '6', '7', '8', '9', '.', 'e', '+', '-']

/-- A text of such characters alone. -/
def Written (cs : List Char) : Prop := ∀ c ∈ cs, c ∈ characters

theorem Written.append {front back : List Char} (first : Written front) (second : Written back) :
    Written (front ++ back) :=
  List.forall_mem_append.mpr ⟨first, second⟩

theorem written_of_digits {cs : List Char} (digits : ∀ c ∈ cs, c.isDigit = true) : Written cs :=
  fun c member => List.mem_append_left ['.', 'e', '+', '-'] (mem_of_isDigit (digits c member))

theorem written_hyphen (negative : Bool) : Written (Yaml.Leaf.hyphen negative) := by
  cases negative <;> simp [Written, Yaml.Leaf.hyphen, characters]

section Written

variable {cs : List Char}

/-- What holds of all the characters that numbers are written with holds of those of a number. -/
theorem Written.forall {P : Char → Prop} (each : ∀ c ∈ characters, P c) (written : Written cs) :
    ∀ c ∈ cs, P c :=
  fun c member => each c (written c member)

theorem Written.filter_bars (written : Written cs) : cs.filter (· != '_') = cs :=
  List.filter_eq_self.mpr (written.forall (by decide))

theorem Written.map_toLower (written : Written cs) : cs.map Char.toLower = cs := by
  have same : ∀ c ∈ cs, c.toLower = c := written.forall (by decide)
  exact (List.map_congr_left same).trans (List.map_id cs)

theorem Written.trimList_isBlank (written : Written cs) : Text.trimList Text.isBlank cs = cs :=
  Text.trimList_of_none (written.forall (by decide))

theorem Written.contains_other {c : Char} (other : c ∉ characters) (written : Written cs) :
    cs.contains c = false := by
  simpa using fun member => other (written c member)

end Written

/-- An exponent is written as a sign, and digits that are worth its magnitude. -/
theorem exists_exponentDigits (power : Int) :
    ∃ digits, Double.exponentText power = (if power < 0 then '-' else '+') :: digits ∧
      isDigits digits = true ∧ value digits = power.natAbs := by
  by_cases single : (Nat.toDigits 10 power.natAbs).length < 2
  -- A single digit has a zero before it, which is worth nothing.
  · refine ⟨'0' :: Nat.toDigits 10 power.natAbs, by rw [Double.exponentText, if_pos single], ?_, ?_⟩
    · simpa [isDigits] using fun c => isDigit_toDigits
    · exact (value_replicate_append 1 _).trans (value_toDigits _)
  · exact ⟨Nat.toDigits 10 power.natAbs, by rw [Double.exponentText, if_neg single],
      isDigits_toDigits _, value_toDigits _⟩

theorem written_exponentText (power : Int) : Written (Double.exponentText power) := by
  obtain ⟨digits, shape, all, -⟩ := exists_exponentDigits power
  simp only [isDigits, Bool.and_eq_true, List.all_eq_true] at all
  rw [shape]
  exact List.forall_mem_cons.mpr ⟨by split <;> decide, written_of_digits all.2⟩

/-- An exponent that is written is read back. -/
theorem power?_exponentText (power : Int) :
    power? ('e' :: Double.exponentText power) = some power := by
  obtain ⟨digits, shape, all, worth⟩ := exists_exponentDigits power
  rw [shape]
  simp only [power?, true_or, if_true]
  by_cases negative : power < 0
  · simp only [if_pos negative, sign, all, worth, signed, if_true]
    rw [Int.ofNat_natAbs_of_nonpos (by omega), Int.neg_neg]
  · simp only [if_neg negative, sign, all, worth, signed, if_true]
    simp only [Bool.false_eq_true, if_false]
    rw [Int.natAbs_of_nonneg (by omega)]

end Numeral

namespace Pointed

open Numeral (Written written_of_digits)

variable (p : Pointed)

theorem whole_digits : ∀ c ∈ p.whole, c.isDigit = true :=
  fun c member => p.digits c (List.mem_append_left _ member)

theorem fraction_digits : ∀ c ∈ p.fraction, c.isDigit = true :=
  fun c member => p.digits c (List.mem_append_right _ member)

theorem written_tail : Written p.tail := by
  unfold tail
  cases p.power with
  | none => exact nofun
  | some power =>
    have letter : Written ['e'] := by simp [Written, Numeral.characters]
    exact letter.append (Numeral.written_exponentText power)

theorem written_text : Written p.text := by
  have point : Written ['.'] := by simp [Written, Numeral.characters]
  have split : p.text = p.whole ++ (['.'] ++ (p.fraction ++ p.tail)) := by simp [text]
  rw [split]
  exact (written_of_digits p.whole_digits).append
    (point.append ((written_of_digits p.fraction_digits).append p.written_tail))

/-- The text begins with a digit. -/
theorem exists_head : ∃ d rest, p.whole = d :: rest ∧ d.isDigit = true := by
  cases shape : p.whole with
  | nil => exact absurd shape p.whole_filled
  | cons d rest => exact ⟨d, rest, rfl, p.whole_digits d (by simp [shape])⟩

theorem power?_tail : Numeral.power? p.tail = some (p.power.getD 0) := by
  unfold tail
  cases p.power with
  | none => rfl
  | some power => exact Numeral.power?_exponentText power

theorem tail_stops : ∀ c ∈ p.tail.head?, c.isDigit = false ∧ c ≠ '_' := by
  unfold tail
  cases p.power with
  | none => exact nofun
  | some power =>
    rintro c ⟨⟩
    decide

/-- A numeral with a point is read as the double it stands for. -/
theorem double?_text : Numeral.double? p.text = some p.double := by
  obtain ⟨d, rest, shape, digit⟩ := p.exists_head
  have front : Numeral.digits p.text = (p.whole, '.' :: (p.fraction ++ p.tail)) := by
    rw [text, List.append_assoc]
    exact Numeral.digits_append p.whole_digits (by rintro c ⟨⟩; decide)
  have back : Numeral.digits (p.fraction ++ p.tail) = (p.fraction, p.tail) :=
    Numeral.digits_append p.fraction_digits fun c member => (p.tail_stops c member).1
  have head : p.text.head? = some d := by simp [text, shape]
  have sign : Numeral.sign p.text = (false, p.text) := by
    unfold Numeral.sign
    split
    · next begins => rw [begins] at head; cases head; cases digit
    · next begins => rw [begins] at head; cases head; cases digit
    · rfl
  -- No name of a number that is not finite begins with a digit.
  have unnamed : ∀ {name : String}, (∀ c ∈ name.toList.head?, c.isDigit = false) →
      String.ofList p.text ≠ name := by
    intro name letter
    refine ofList_ne_of_head fun same => ?_
    rw [letter d (same.symm.trans head)] at digit
    cases digit
  simp only [Numeral.double?, sign, Numeral.unsigned?, p.written_text.map_toLower, front, back]
  rw [if_neg (not_or.mpr ⟨unnamed (by decide), unnamed (by decide)⟩), if_neg (unnamed (by decide))]
  simp [p.whole_filled, p.power?_tail, double]

end Pointed

namespace Yaml

open Numeral (Written)

/-- A word of YAML begins with a letter, and a number does not. -/
theorem Tag.boolWords_other {cs : List Char} (written : Written cs) (filled : cs ≠ []) :
    boolWords.contains (String.ofList cs) = false := by
  have letters : ∀ word ∈ boolWords, ∀ c ∈ word.toList.head?, c ∉ Numeral.characters := by decide
  rw [List.contains_eq_mem, decide_eq_false_iff_not]
  intro member
  cases shape : cs with
  | nil => exact filled shape
  | cons c rest =>
    refine letters _ member c ?_ (written c (by simp [shape]))
    rw [String.toList_ofList, shape]
    rfl

/-- A number is tagged by its form alone. -/
theorem Tag.ofPlain_written {cs : List Char} (written : Written cs) (filled : cs ≠ [])
    (number : isFloat cs = true ∨ isInt cs = true) :
    ofPlain (String.ofList cs) = if isFloat cs then .float else .int := by
  have some : (String.ofList cs).isEmpty = false := by
    rw [Bool.eq_false_iff]
    intro empty
    have := congrArg String.toList (String.isEmpty_iff.mp empty)
    rw [String.toList_ofList] at this
    exact filled this
  have last : cs.getLast? ≠ Option.some '\n' := by
    intro ends
    exact absurd (written _ (List.mem_of_getLast? ends)) (by decide)
  unfold ofPlain
  simp only [some, String.toList_ofList, if_neg last, boolWords_other written filled,
    Bool.false_eq_true, if_false]
  rcases number with float | int
  · simp only [float, if_true]
  · simp only [int, if_true]

theorem Tag.unpointed_of_digits {cs : List Char} (digits : ∀ c ∈ cs, c.isDigit = true) :
    ∀ c ∈ cs, (c != '.') = true := by
  intro c member
  rw [bne_iff_ne]
  rintro rfl
  cases digits _ member

theorem Tag.startsWithDigit_of_digits {cs : List Char} (filled : cs ≠ [])
    (digits : ∀ c ∈ cs, c.isDigit = true) : startsWithDigit cs = true := by
  obtain ⟨c, rest, rfl⟩ := List.exists_cons_of_ne_nil filled
  obtain ⟨first, others⟩ := List.forall_mem_cons.mp digits
  have more : ∀ d ∈ rest, isDigitOrBar d = true := fun d member => by
    simp [isDigitOrBar, others d member]
  simp only [startsWithDigit, first, Bool.true_and, List.all_eq_true]
  exact more

theorem Tag.unsigned_append {negative : Bool} {cs : List Char}
    (digit : ∀ c ∈ cs.head?, c ≠ '+' ∧ c ≠ '-') : unsigned (Leaf.hyphen negative ++ cs) = cs := by
  cases negative with
  | true => rfl
  | false =>
    show unsigned cs = cs
    unfold unsigned
    split
    · exact absurd rfl (digit _ rfl).1
    · exact absurd rfl (digit _ rfl).2
    · rfl

end Yaml

namespace Pointed

open Yaml (Tag)

variable (p : Pointed)

theorem isExponent_tail : Tag.isExponent p.tail = true := by
  unfold tail
  cases p.power with
  | none => rfl
  | some power =>
    obtain ⟨digits, shape, all, -⟩ := Numeral.exists_exponentDigits power
    have some : Tag.someOf Char.isDigit digits = true := all
    simp only [Option.map_some, Option.getD_some, shape, Tag.isExponent, some]
    split <;> rfl

theorem head_text : ∀ c ∈ p.text.head?, c ≠ '+' ∧ c ≠ '-' := by
  obtain ⟨d, rest, shape, digit⟩ := p.exists_head
  intro c member
  rw [text, shape] at member
  cases member
  constructor <;> rintro rfl <;> cases digit

/-- With a sign or without, the text is tagged as a number with a point. -/
theorem isFloat_text (negative : Bool) : Tag.isFloat (Yaml.Leaf.hyphen negative ++ p.text) = true := by
  have noPoint := Tag.unpointed_of_digits p.whole_digits
  have parts : p.text.span (· != '.') = (p.whole, '.' :: (p.fraction ++ p.tail)) := by
    rw [List.span_eq_takeWhile_dropWhile, text, List.append_assoc,
      List.takeWhile_append_of_pos noPoint, List.dropWhile_append_of_pos noPoint]
    simp
  have starts := Tag.startsWithDigit_of_digits p.whole_filled p.whole_digits
  have fraction : Tag.isFraction (p.fraction ++ p.tail) = true := by
    have digits : ∀ c ∈ p.fraction, Tag.isDigitOrBar c = true := fun c member => by
      simp [Tag.isDigitOrBar, p.fraction_digits c member]
    have stop : p.tail.dropWhile Tag.isDigitOrBar = p.tail := by
      cases shape : p.tail with
      | nil => rfl
      | cons c rest =>
        have := p.tail_stops c (by simp [shape])
        simp [Tag.isDigitOrBar, this]
    rw [Tag.isFraction, List.dropWhile_append_of_pos digits, stop, p.isExponent_tail]
  unfold Tag.isFloat
  simp only [Tag.unsigned_append p.head_text, parts, starts, fraction]
  rfl

end Pointed

namespace Yaml

open Numeral (Written)

theorem sign_append {negative : Bool} {cs : List Char}
    (digit : ∀ c ∈ cs.head?, c ≠ '+' ∧ c ≠ '-') :
    Numeral.sign (Leaf.hyphen negative ++ cs) = (negative, cs) := by
  cases negative with
  | true => rfl
  | false =>
    show Numeral.sign cs = (false, cs)
    unfold Numeral.sign
    split
    · exact absurd rfl (digit _ rfl).2
    · exact absurd rfl (digit _ rfl).1
    · rfl

/-- A numeral with a point says the double it stands for. -/
theorem Scalar.doubleUnsigned_text (p : Pointed) : doubleUnsigned p.text = .ok p.double := by
  obtain ⟨d, rest, shape, digit⟩ := p.exists_head
  have unnamed : ∀ {name : List Char}, (∀ c ∈ name.head?, c.isDigit = false) → p.text ≠ name := by
    rintro name letter rfl
    rw [letter d (by simp [Pointed.text, shape])] at digit
    cases digit
  unfold doubleUnsigned
  rw [if_neg (unnamed (by decide)), if_neg (unnamed (by decide)),
    p.written_text.contains_other (by decide)]
  simp [double, p.written_text.trimList_isBlank, p.double?_text]

theorem Scalar.float_text (p : Pointed) (negative : Bool) :
    float (String.ofList (Leaf.hyphen negative ++ p.text)) =
      .ok (if negative then -p.double else p.double) := by
  have written := (Numeral.written_hyphen negative).append p.written_text
  have filled : Leaf.hyphen negative ++ p.text ≠ [] := by simp [Pointed.text]
  unfold float withoutBars
  rw [String.toList_ofList, written.filter_bars, written.map_toLower]
  split
  · contradiction
  · simp only [sign_append p.head_text, doubleUnsigned_text]
    rfl

/-- A double that is written is tagged as a number with a point, and read as that double. -/
theorem Leaf.ofDouble_back (x : Double) :
    Tag.ofPlain (String.ofList (ofDouble x)) = .float ∧
      Scalar.float (String.ofList (ofDouble x)) = .ok x := by
  cases x with
  | notANumber => decide
  | infinite negative => cases negative <;> decide
  | finite negative significand exponent canonical =>
    obtain ⟨p, text, double⟩ := ofDouble_finite negative canonical
    have written := (Numeral.written_hyphen negative).append p.written_text
    rw [text]
    constructor
    · rw [Tag.ofPlain_written written (by simp [Pointed.text]) (.inl (p.isFloat_text negative)),
        p.isFloat_text negative, if_pos rfl]
    · rw [Scalar.float_text, double]
      cases negative <;> rfl

/-- The text of a whole number is a hyphen, if it is negative, and digits. -/
theorem Leaf.toString_int (n : Int) :
    (toString n).toList = hyphen (decide (n < 0)) ++ Nat.toDigits 10 n.natAbs := by
  cases n with
  | ofNat m => simp [Int.toString_eq_repr, Int.repr, hyphen, Nat.toList_repr]
  | negSucc m => simp [Int.toString_eq_repr, Int.repr, hyphen, Nat.toList_repr]

theorem Scalar.magnitude?_toDigits {n : Nat} (short : (Nat.toDigits 10 n).length ≤ Platform.digitLimit) :
    magnitude? 10 (Nat.toDigits 10 n) = some n := by
  have step : ∀ c ∈ ['0', '1', '2', '3', '4', '5', '6', '7', '8', '9'],
      Text.hexValue? c = some (c.toNat - '0'.toNat) ∧ c.toNat - '0'.toNat < 10 := by decide
  -- Digit by digit the total is what the digits so far are worth.
  have fold : ∀ (cs : List Char) (total : Nat), (∀ c ∈ cs, c.isDigit = true) →
      cs.foldlM (fun total c => (Text.hexValue? c).bind fun digit =>
        if digit < 10 then some (10 * total + digit) else none) total =
      some (cs.foldl (fun total digit => 10 * total + (digit.toNat - '0'.toNat)) total) := by
    intro cs
    induction cs with
    | nil => exact fun _ _ => rfl
    | cons c rest ih =>
      intro total digits
      obtain ⟨value, small⟩ := step c (Numeral.mem_of_isDigit (digits c (by simp)))
      simp only [List.foldlM_cons, value, Option.bind_some, if_pos small, Option.bind_eq_bind,
        List.foldl_cons]
      exact ih _ fun c member => digits c (List.mem_cons_of_mem _ member)
  have worth := Numeral.value_toDigits n
  unfold magnitude?
  rw [if_neg (by simp [Nat.toDigits_ne_nil]; exact short),
    fold _ 0 fun c member => Numeral.isDigit_toDigits member]
  exact congrArg some worth

section Whole

variable {n : Nat}

theorem head_toDigits (n : Nat) : ∀ c ∈ (Nat.toDigits 10 n).head?, c ≠ '+' ∧ c ≠ '-' := by
  intro c member
  have digit := Numeral.isDigit_toDigits (List.mem_of_mem_head? member)
  constructor <;> rintro rfl <;> cases digit

/-- The digits of a whole number say that number. -/
theorem Scalar.wholeUnsigned_toDigits (short : (Nat.toDigits 10 n).length ≤ Platform.digitLimit) :
    wholeUnsigned (Nat.toDigits 10 n) = .ok (n : Int) := by
  have written := Numeral.written_of_digits fun c => @Numeral.isDigit_toDigits n c
  have unsigned : Numeral.sign (Nat.toDigits 10 n) = (false, Nat.toDigits 10 n) :=
    @sign_append false _ (head_toDigits n)
  by_cases zero : n = 0
  · rw [zero]
    rfl
  have first := Numeral.head?_toDigits zero
  have unmarked : withoutMark 10 (Nat.toDigits 10 n) = Nat.toDigits 10 n := by
    unfold withoutMark
    split
    · next shape => exact absurd (by rw [shape]; rfl) first
    · rfl
  unfold wholeUnsigned
  split
  · next shape => exact absurd shape Nat.toDigits_ne_nil
  -- A zero in front would mean another base.
  · next shape => exact absurd (by rw [shape]; rfl) first
  · next shape => exact absurd (by rw [shape]; rfl) first
  · next shape => exact absurd (by rw [shape]; rfl) first
  · next shape => exact absurd (by rw [shape]; rfl) first
  · rw [written.contains_other (by decide)]
    simp [whole, written.trimList_isBlank, unsigned, unmarked, magnitude?_toDigits short,
      Numeral.signed]

/-- With a sign or without, digits are not tagged as a number with a point. -/
theorem Tag.isFloat_toDigits (negative : Bool) (n : Nat) :
    isFloat (Leaf.hyphen negative ++ Nat.toDigits 10 n) = false := by
  have written : Written (Leaf.hyphen negative ++ Nat.toDigits 10 n) :=
    (Numeral.written_hyphen negative).append
      (Numeral.written_of_digits fun c => Numeral.isDigit_toDigits)
  have unpointed := Tag.unpointed_of_digits fun c => @Numeral.isDigit_toDigits n c
  have parts : (Nat.toDigits 10 n).span (· != '.') = (Nat.toDigits 10 n, []) := by
    rw [List.span_eq_takeWhile_dropWhile, List.takeWhile_eq_self_iff.mpr unpointed,
      List.dropWhile_eq_nil_iff.mpr unpointed]
  -- Neither with the sign nor without does a point come first.
  have front : ∀ c ∈ (Leaf.hyphen negative ++ Nat.toDigits 10 n).head?, c ≠ '.' := by
    cases negative with
    | true => rintro c ⟨⟩; decide
    | false => exact fun c member => bne_iff_ne.mp (unpointed c (List.mem_of_mem_head? member))
  have unnamed : ∀ {words : List String} {cs : List Char},
      (∀ word ∈ words, word.toList.head? = some '.') → (∀ c ∈ cs.head?, c ≠ '.') →
      words.contains (String.ofList cs) = false := by
    intro words cs points other
    rw [List.contains_eq_mem, decide_eq_false_iff_not]
    intro member
    have point := points _ member
    rw [String.toList_ofList] at point
    exact other '.' point rfl
  unfold isFloat
  simp only [Tag.unsigned_append (head_toDigits n), parts]
  rw [unnamed (by decide) fun c member => bne_iff_ne.mp (unpointed c (List.mem_of_mem_head? member)),
    unnamed (by decide) front]
  split
  · next begins => exact absurd rfl (front '.' (by rw [begins]; rfl))
  · rfl

/-- With a sign or without, digits are tagged as a whole number. -/
theorem Tag.isInt_toDigits (negative : Bool) (n : Nat) :
    isInt (Leaf.hyphen negative ++ Nat.toDigits 10 n) = true := by
  have starts := Tag.startsWithDigit_of_digits Nat.toDigits_ne_nil fun c =>
    @Numeral.isDigit_toDigits n c
  unfold isInt
  rw [Tag.unsigned_append (head_toDigits n)]
  by_cases zero : n = 0
  · rw [zero]
    rfl
  have first := Numeral.head?_toDigits zero
  split
  · next shape => exact absurd (by rw [shape]; rfl) first
  · next shape => exact absurd (by rw [shape]; rfl) first
  · next shape => exact absurd (by rw [shape]; rfl) first
  · next shape => exact absurd (by rw [shape]; rfl) first
  · rw [starts, Bool.true_or]

end Whole

/-- A whole number of at most as many digits as are read back. -/
theorem Datum.length_toDigits {n : Int} (short : Platform.isTooLong n = false) :
    (Nat.toDigits 10 n.natAbs).length ≤ Platform.digitLimit := by
  apply Nat.le_of_not_lt
  intro long
  rw [Platform.isTooLong_iff.mpr long] at short
  cases short

/-- A whole number that is written is tagged as one, and read as that number. -/
theorem Leaf.int_back {n : Int} (short : Platform.isTooLong n = false) :
    Tag.ofPlain (toString n) = .int ∧ Scalar.int (toString n) = .ok n := by
  have text : toString n =
      String.ofList (hyphen (decide (n < 0)) ++ Nat.toDigits 10 n.natAbs) := by
    rw [← toString_int, String.ofList_toList]
  have written : Written (hyphen (decide (n < 0)) ++ Nat.toDigits 10 n.natAbs) :=
    (Numeral.written_hyphen _).append (Numeral.written_of_digits fun c => Numeral.isDigit_toDigits)
  rw [text]
  constructor
  · rw [Tag.ofPlain_written written (by simp) (.inr (Tag.isInt_toDigits _ _)),
      Tag.isFloat_toDigits]
    rfl
  · unfold Scalar.int Scalar.withoutBars
    rw [String.toList_ofList, written.filter_bars]
    simp only [sign_append (head_toDigits _),
      Scalar.wholeUnsigned_toDigits (Datum.length_toDigits short)]
    by_cases negative : n < 0
    · simp only [decide_eq_true negative, if_true]
      exact congrArg Except.ok (by omega)
    · simp only [decide_eq_false negative, Bool.false_eq_true, if_false]
      exact congrArg Except.ok (by omega)

/-- What is not a text is written as a word that is read back as what it was. -/
theorem Leaf.word_back {leaf : Leaf} (other : ∀ s, leaf ≠ .text s)
    (writable : leaf.datum.isWritable = true) (column : Nat) :
    Node.scalarDatum (Tag.ofPlain (String.ofList (leaf.written column)))
      (String.ofList (leaf.written column)) = .ok leaf.datum := by
  cases leaf with
  | text s => exact absurd rfl (other s)
  | int n =>
    obtain ⟨tag, value⟩ := int_back (by simpa [datum, Datum.isWritable] using writable)
    simp only [written, String.ofList_toList, tag, Node.scalarDatum, value]
    rfl
  | float x =>
    obtain ⟨tag, value⟩ := ofDouble_back x
    simp only [written, tag, Node.scalarDatum, value]
    rfl
  | bool b =>
    have tag : ∀ b : Bool, Tag.ofPlain (if b then "true" else "false") = .bool := by decide
    have value : ∀ b : Bool, Scalar.bool (if b then "true" else "false") = .ok b := by decide
    simp only [written, String.ofList_toList, tag, Node.scalarDatum, value]
    rfl

end Yaml

end Issuance
