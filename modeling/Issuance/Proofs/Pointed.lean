import Issuance.Proofs.Numeral
import Issuance.Proofs.Shortest
import Issuance.Yaml.Printer

/-! The text of a finite double is a numeral with a point that stands for that double. -/

namespace Issuance

open Double (Decimal)

/-- A numeral with digits on both sides of its point, and perhaps an exponent. -/
structure Pointed where
  whole : List Char
  fraction : List Char
  power : Option Int
  whole_filled : whole ≠ []
  fraction_filled : fraction ≠ []
  digits : ∀ c ∈ whole ++ fraction, c.isDigit = true

namespace Pointed

/-- The exponent behind its letter, if there is one. -/
def tail (p : Pointed) : List Char := (p.power.map fun power => 'e' :: Double.exponentText power).getD []

/-- The text of the numeral. -/
def text (p : Pointed) : List Char := p.whole ++ '.' :: p.fraction ++ p.tail

/-- The double the numeral stands for. -/
def double (p : Pointed) : Double := Numeral.double false p.whole p.fraction (p.power.getD 0)

/-- The number the numeral stands for. -/
def value (p : Pointed) : ℚ :=
  Numeral.value (p.whole ++ p.fraction) * 10 ^ (p.power.getD 0 - p.fraction.length)

/-- Numerals with one value stand for one double. -/
theorem double_eq {p : Pointed} {digits : Nat} {exponent : Int}
    (same : p.value = digits * 10 ^ exponent) : p.double = Double.ofDecimal false digits exponent :=
  Double.ofDecimal_congr same false

end Pointed

namespace Double

/-- The digits of a numeral without the zeros at its end, and the place of the first, keep its value. -/
theorem significantDigits_value {numeral : Decimal} (some : numeral.digits ≠ 0) :
    (significantDigits numeral).1 ≠ [] ∧ (∀ c ∈ (significantDigits numeral).1, c.isDigit = true) ∧
      (Numeral.value (significantDigits numeral).1 : ℚ) *
        10 ^ ((significantDigits numeral).2 + 1 - (significantDigits numeral).1.length) =
          numeral.digits * 10 ^ numeral.exponent := by
  have worth := Numeral.value_toDigits numeral.digits
  have digit : ∀ c ∈ Nat.toDigits 10 numeral.digits, c.isDigit = true :=
    fun c member => Numeral.isDigit_toDigits member
  simp only [significantDigits]
  set all := Nat.toDigits 10 numeral.digits
  set kept := (all.reverse.dropWhile (· == '0')).reverse with kept_eq
  -- What is dropped are zeros, each of them a factor of ten.
  obtain ⟨zeros, split⟩ : ∃ zeros, all = kept ++ List.replicate zeros '0' := by
    refine ⟨(all.reverse.takeWhile (· == '0')).length, ?_⟩
    have only : all.reverse.takeWhile (· == '0') =
        List.replicate (all.reverse.takeWhile (· == '0')).length '0' :=
      List.eq_replicate_of_mem fun c member => by
        simpa using List.all_eq_true.mp List.all_takeWhile c member
    rw [kept_eq, ← List.reverse_replicate, ← only, ← List.reverse_append,
      List.takeWhile_append_dropWhile, List.reverse_reverse]
  have factor : Numeral.value all = 10 ^ zeros * Numeral.value kept := by
    rw [split, Numeral.value_append, Numeral.value_replicate, List.length_replicate, Nat.add_zero]
  have length : all.length = kept.length + zeros := by
    rw [split, List.length_append, List.length_replicate]
  refine ⟨?_, fun c member => digit c (split ▸ List.mem_append_left _ member), ?_⟩
  · intro empty
    rw [empty] at factor
    exact some (by rw [← worth, factor]; rfl)
  · rw [← worth, factor, length]
    push_cast
    rw [show numeral.exponent + ((kept.length : Int) + zeros) - 1 + 1 - kept.length =
      numeral.exponent + zeros by omega, zpow_add₀ (by norm_num), zpow_natCast]
    ring

/-- Digits written out in place keep their value. -/
theorem positionalParts_value {kept : List Char} (filled : kept ≠ [])
    (digit : ∀ c ∈ kept, c.isDigit = true) (power : Int) :
    (positionalParts kept power).1 ≠ [] ∧
      (∀ c ∈ (positionalParts kept power).1 ++ (positionalParts kept power).2, c.isDigit = true) ∧
      (Numeral.value ((positionalParts kept power).1 ++ (positionalParts kept power).2) : ℚ) *
        10 ^ (-((positionalParts kept power).2.length : Int)) =
          Numeral.value kept * 10 ^ (power + 1 - kept.length) := by
  have zero : ∀ {count : Nat} {c : Char}, c ∈ List.replicate count '0' → c.isDigit = true :=
    fun member => by rw [List.eq_of_mem_replicate member]; rfl
  have positive := List.length_pos_of_ne_nil filled
  cases power with
  | negSucc places =>
    -- All digits stand behind the point, with zeros between it and them.
    simp only [positionalParts]
    refine ⟨by simp, ?_, ?_⟩
    · exact List.forall_mem_append.mpr
        ⟨List.forall_mem_singleton.mpr rfl, List.forall_mem_append.mpr ⟨fun _ => zero, digit⟩⟩
    · rw [show ['0'] = List.replicate 1 '0' by rfl, Numeral.value_replicate_append,
        Numeral.value_replicate_append, List.length_append, List.length_replicate]
      congr 2
      omega
  | ofNat places =>
    simp only [positionalParts]
    by_cases short : kept.length ≤ places + 1
    · -- No digit stands behind the point, and zeros fill the places before it.
      rw [List.take_of_length_le short, List.drop_of_length_le short, List.append_nil]
      refine ⟨by simp [filled], List.forall_mem_append.mpr ⟨digit, fun _ => zero⟩, ?_⟩
      · rw [Numeral.value_append, Numeral.value_replicate, List.length_replicate, Nat.add_zero,
          List.length_nil, Int.ofNat_eq_natCast,
          show (places : Int) + 1 - kept.length = ((places + 1 - kept.length : Nat) : Int) by omega,
          zpow_natCast]
        push_cast
        ring
    · have taken : (kept.take (places + 1)).length = places + 1 := by
        rw [List.length_take]
        omega
      rw [taken, Nat.sub_self, List.replicate_zero, List.append_nil, List.take_append_drop]
      refine ⟨?_, digit, ?_⟩
      · intro none
        rw [none] at taken
        cases taken
      · rw [List.length_drop, Int.ofNat_eq_natCast]
        congr 2
        omega

end Double

namespace Yaml.Leaf

open Double

/-- The sign in front of a number: a hyphen if it is negative. -/
def hyphen (negative : Bool) : List Char := if negative then ['-'] else []

/-- What stands before the letter of an exponent is the mantissa. -/
theorem span_exponent {front tail : List Char} (plain : ∀ c ∈ front, c ≠ 'e')
    (stops : ∀ c ∈ tail.head?, c = 'e') : (front ++ tail).span (· != 'e') = (front, tail) := by
  rw [List.span_eq_takeWhile_dropWhile, List.takeWhile_append_of_pos (by simpa using plain),
    List.dropWhile_append_of_pos (by simpa using plain)]
  cases tail with
  | nil => simp
  | cons c rest =>
    rw [stops c rfl]
    simp

theorem ne_letter_of_isDigit {c : Char} (digit : c.isDigit = true) : c ≠ 'e' := by
  rintro rfl
  cases digit

theorem ne_letter_of_hyphen {negative : Bool} {c : Char} (member : c ∈ hyphen negative) :
    c ≠ 'e' := by
  cases negative with
  | false => cases member
  | true =>
    rw [List.mem_singleton.mp member]
    decide

/-- The significant digits of a finite double, and the place of the first of them. -/
theorem significantDigits_finite {significand : Nat} {exponent : Int}
    (canonical : Canonical significand exponent) (some : significand ≠ 0) :
    ∃ kept power, significantDigits (shortestDecimal (.finite false significand exponent canonical)
        (ratio significand exponent).1 (ratio significand exponent).2) = (kept, power) ∧
      kept ≠ [] ∧ (∀ c ∈ kept, c.isDigit = true) ∧
      ∀ p : Pointed, p.value = Numeral.value kept * 10 ^ (power + 1 - kept.length) →
        p.double = .finite false significand exponent canonical := by
  have reads := ofDecimal_shortestDecimal canonical some
  have filled : (shortestDecimal (.finite false significand exponent canonical)
      (ratio significand exponent).1 (ratio significand exponent).2).digits ≠ 0 := by
    -- The numeral of zero is read as zero.
    intro none
    rw [none] at reads
    simp only [ofDecimal, zeroSigned] at reads
    cases reads
    exact some rfl
  obtain ⟨kept, digit, same⟩ := significantDigits_value filled
  exact ⟨_, _, rfl, kept, digit, fun p value => by rw [Pointed.double_eq (value.trans same), reads]⟩

section Finite

variable {negative : Bool} {significand : Nat} {exponent : Int}
  {canonical : Canonical significand exponent}

/-- A text that has its point already is kept. -/
theorem ofDouble_of_pointed {p : Pointed}
    (written : (Double.finite negative significand exponent canonical).text.toList =
      hyphen negative ++ p.text) :
    ofDouble (.finite negative significand exponent canonical) = hyphen negative ++ p.text := by
  obtain ⟨whole, fraction⟩ := List.forall_mem_append.mp p.digits
  have plain : ∀ c ∈ hyphen negative ++ (p.whole ++ '.' :: p.fraction), c ≠ 'e' :=
    List.forall_mem_append.mpr ⟨fun _ => ne_letter_of_hyphen, List.forall_mem_append.mpr
      ⟨fun c member => ne_letter_of_isDigit (whole c member), List.forall_mem_cons.mpr
        ⟨by decide, fun c member => ne_letter_of_isDigit (fraction c member)⟩⟩⟩
  have stops : ∀ c ∈ p.tail.head?, c = 'e' := by
    unfold Pointed.tail
    cases p.power <;> simp
  have split : hyphen negative ++ p.text =
      (hyphen negative ++ (p.whole ++ '.' :: p.fraction)) ++ p.tail := by
    simp [Pointed.text]
  have pointed : (hyphen negative ++ (p.whole ++ '.' :: p.fraction)).contains '.' = true := by simp
  rw [split] at written ⊢
  simp only [ofDouble, written, span_exponent plain stops, pointed, if_true]

/-- A digit alone before an exponent gets a point and a zero. -/
theorem ofDouble_of_bare {d : Char} {power : Int} (digit : d.isDigit = true)
    (written : (Double.finite negative significand exponent canonical).text.toList =
      hyphen negative ++ d :: 'e' :: exponentText power) :
    ofDouble (.finite negative significand exponent canonical) =
      hyphen negative ++ d :: '.' :: '0' :: 'e' :: exponentText power := by
  have plain : ∀ c ∈ hyphen negative ++ [d], c ≠ 'e' :=
    List.forall_mem_append.mpr ⟨fun _ => ne_letter_of_hyphen,
      List.forall_mem_singleton.mpr (ne_letter_of_isDigit digit)⟩
  have stops : ∀ c ∈ ('e' :: exponentText power).head?, c = 'e' := by simp
  have bare : (hyphen negative ++ [d]).contains '.' = false := by
    have other : '.' ≠ d := by
      rintro rfl
      cases digit
    cases negative <;> simp [hyphen, other]
  have split : hyphen negative ++ d :: 'e' :: exponentText power =
      (hyphen negative ++ [d]) ++ 'e' :: exponentText power := by simp
  rw [split] at written
  simp only [ofDouble, written, span_exponent plain stops, bare]
  simp

/-- Digits written out in place, with a zero where none stands behind the point. -/
theorem exists_positional {kept : List Char} (filled : kept ≠ [])
    (digit : ∀ c ∈ kept, c.isDigit = true) (power : Int) :
    ∃ p : Pointed, p.text = (positionalParts kept power).1 ++ '.' ::
        (if (positionalParts kept power).2.isEmpty then ['0'] else (positionalParts kept power).2) ∧
      p.value = Numeral.value kept * 10 ^ (power + 1 - kept.length) := by
  obtain ⟨some, digits, value⟩ := positionalParts_value filled digit power
  generalize positionalParts kept power = parts at some digits value
  obtain ⟨whole, fraction⟩ := parts
  cases fraction with
  | nil =>
    rw [List.append_nil] at digits
    have zeros : ∀ c ∈ whole ++ ['0'], c.isDigit = true :=
      List.forall_mem_append.mpr ⟨digits, List.forall_mem_singleton.mpr rfl⟩
    refine ⟨⟨whole, ['0'], none, some, nofun, zeros⟩, by simp [Pointed.text, Pointed.tail], ?_⟩
    rw [← value, Pointed.value, Numeral.value_append_singleton]
    simp
    ring
  | cons d rest =>
    refine ⟨⟨whole, d :: rest, none, some, nofun, digits⟩,
      by simp [Pointed.text, Pointed.tail], ?_⟩
    rw [← value, Pointed.value]
    simp

/-- A finite double is written as a numeral with a point that stands for it. -/
theorem ofDouble_finite (negative : Bool) (canonical : Canonical significand exponent) :
    ∃ p : Pointed, ofDouble (.finite negative significand exponent canonical) =
        hyphen negative ++ p.text ∧ p.double = .finite false significand exponent canonical := by
  by_cases zero : significand = 0
  · subst zero
    obtain rfl : exponent = -1074 := by
      obtain ⟨_, _, _, full | least⟩ := canonical
      · exact absurd full (by decide)
      · exact least
    refine ⟨⟨['0'], ['0'], none, by simp, by simp,
      List.all_eq_true.mp (by decide)⟩, ?_, rfl⟩
    exact ofDouble_of_pointed (by
      cases negative <;> simp [Double.text, hyphen, Pointed.text, Pointed.tail])
  obtain ⟨kept, power, found, filled, digit, stands⟩ := significantDigits_finite canonical zero
  have magnitude : (if negative = true then Double.finite false significand exponent canonical
      else .finite negative significand exponent canonical) =
        .finite false significand exponent canonical := by
    cases negative <;> rfl
  have written : (Double.finite negative significand exponent canonical).text.toList =
      if -4 ≤ power ∧ power < 16 then
        hyphen negative ++ ((positionalParts kept power).1 ++ '.' ::
          (if (positionalParts kept power).2.isEmpty then ['0'] else (positionalParts kept power).2))
      else hyphen negative ++ scientificText kept power := by
    unfold Double.text
    simp only [if_neg zero, magnitude, found, hyphen]
    split <;> simp
  by_cases near : -4 ≤ power ∧ power < 16
  · obtain ⟨p, text, value⟩ := exists_positional filled digit power
    rw [if_pos near, ← text] at written
    exact ⟨p, ofDouble_of_pointed written, stands p value⟩
  · rw [if_neg near] at written
    cases kept with
    | nil => exact absurd rfl filled
    | cons d rest =>
      -- With a single digit there is no point yet.
      cases rest with
      | nil =>
        have single : d.isDigit = true := digit d (by simp)
        refine ⟨⟨[d], ['0'], some power, by simp, by simp, by simpa using single⟩,
          ofDouble_of_bare single written, stands _ ?_⟩
        rw [Pointed.value, Numeral.value_append_singleton]
        simp [zpow_sub_one₀]
        ring
      | cons d' rest =>
        refine ⟨⟨[d], d' :: rest, some power, by simp, by simp, by simpa using digit⟩,
          ofDouble_of_pointed (by simpa [scientificText, Pointed.text, Pointed.tail] using written),
          stands _ ?_⟩
        rw [Pointed.value]
        simp

end Finite

end Yaml.Leaf

end Issuance
