import Issuance.Json.Printer
import Issuance.Json.Reader
import Issuance.Proofs.Numeral
import Issuance.Proofs.Utf8
import Issuance.Proofs.Wire

/-! Data that is printed as JSON is read as it was, within the limits of the reader. -/

namespace Issuance.Json

/-- Data without numbers that are not whole and without secrets, that a reader of a width and depth takes on. -/
inductive Legible (width : Nat) : Nat → Value → Prop
  | null {depth : Nat} : Legible width depth .null
  | bool {depth : Nat} (told : Bool) : Legible width depth (.bool told)
  | int {depth : Nat} (n : Int) (short : (toString n).length ≤ width) : Legible width depth (.int n)
  | text {depth : Nat} (s : String) : Legible width depth (.text s)
  | list {depth : Nat} {items : List Value} (each : ∀ item ∈ items, Legible width depth item) :
      Legible width (depth + 1) (.list items)
  | record {depth : Nat} {members : Members} (once : (members.map Prod.fst).Nodup)
      (each : ∀ member ∈ members, Legible width depth member.2) :
      Legible width (depth + 1) (.record members)

/-- What may stand behind a value: nothing, or a character that goes on with what the value is in. -/
def Closing (rest : List Char) : Prop := ∀ c ∈ rest.head?, c = ',' ∨ c = ']' ∨ c = '}'

/-- A reader takes what is printed of a value for that value, whatever closes it. -/
def Takes (read : Read) (value : Value) : Prop :=
  ∀ rest, Closing rest → read (printValue value ++ rest) = some (value, rest)

/-- Before a character that is no space there is none to skip. -/
theorem skipSpace_cons {c : Char} {cs : List Char} (dark : isSpace c = false) :
    skipSpace (c :: cs) = c :: cs := by
  -- The first character ends what is dropped.
  rw [skipSpace, List.dropWhile_cons, if_neg (by simp [dark])]

section Payloads

variable {width depth : Nat}

/-- A wire form is legible if all members that are present are, and none is there twice. -/
theorem Legible.payload {entries : List (String × Option Value)}
    (once : (entries.map Prod.fst).Nodup)
    (each : ∀ entry ∈ entries, ∀ value ∈ entry.2, Legible width depth value) :
    Legible width (depth + 1) (Payload.record entries) := by
  refine .record ((Payload.sublist_given entries).nodup once) fun member present => ?_
  -- A member that is given is an entry with a value.
  obtain ⟨⟨name, value?⟩, listed, present⟩ := List.mem_filterMap.mp present
  obtain ⟨value, rfl, rfl⟩ := Option.map_eq_some_iff.mp present
  exact each _ listed value rfl

theorem Legible.texts (items : List String) : Legible width (depth + 1) (Payload.texts items) := by
  refine .list fun item member => ?_
  obtain ⟨text, _, rfl⟩ := List.mem_map.mp member
  exact .text text

end Payloads

section Strings

/-- The digits of the escape of a control character tell its code. -/
theorem hexNumber?_hexFixed : ∀ code < 0x20, Text.hexNumber? (Text.hexFixed 4 code) = some code := by
  decide

/-- A control character is read from its numeric escape. -/
theorem unicodeEscape?_hexFixed {c : Char} (control : c.toNat < 0x20) (cs : List Char) :
    unicodeEscape? (Text.hexFixed 4 c.toNat ++ cs) = some (c, cs) := by
  have told := hexNumber?_hexFixed c.toNat control
  obtain ⟨first, second, third, fourth, digits⟩ : ∃ first second third fourth,
      Text.hexFixed 4 c.toNat = [first, second, third, fourth] := ⟨_, _, _, _, rfl⟩
  -- Such a code is no half of a pair, so that the escape stands for itself.
  have low : c.toNat < 0xD800 ∨ 0xDFFF < c.toNat := .inl (by omega)
  rw [digits] at told ⊢
  simp [unicodeEscape?, escapeUnit?, told, low, Char.ofNat_toNat]

/-- One character of a string is taken with its escape, if it has one. -/
theorem stringBody?_escapeChar (c : Char) (budget : Nat) (cs : List Char) :
    stringBody? (budget + 1) (escapeChar c ++ cs) =
      (stringBody? budget cs).map fun (body, rest) => (c :: body, rest) := by
  unfold escapeChar
  -- Quotes and backslashes have escapes of their own, and control characters the numeric one.
  split_ifs with quote backslash control
  · subst quote
    cases read : stringBody? budget cs <;> simp [stringBody?, escape?, read]
  · subst backslash
    cases read : stringBody? budget cs <;> simp [stringBody?, escape?, read]
  · have escaped := unicodeEscape?_hexFixed control cs
    cases read : stringBody? budget cs <;> simp [stringBody?, escape?, escaped, read]
  · cases read : stringBody? budget cs <;> simp [stringBody?, quote, backslash, control, read]

/-- The characters of a string are taken up to the quote behind them. -/
theorem stringBody?_print (cs : List Char) {budget : Nat} (enough : cs.length < budget)
    (rest : List Char) :
    stringBody? budget (cs.flatMap escapeChar ++ '"' :: rest) = some (cs, rest) := by
  -- The induction is on the characters; each of them takes one of the budget.
  induction cs generalizing budget with
  | nil =>
    -- The closing quote takes one more.
    obtain ⟨budget, rfl⟩ := Nat.exists_eq_succ_of_ne_zero (Nat.ne_of_gt enough)
    simp [stringBody?]
  | cons c cs ih =>
    obtain ⟨budget, rfl⟩ := Nat.exists_eq_succ_of_ne_zero (Nat.ne_of_gt (Nat.zero_lt_of_lt enough))
    rw [List.flatMap_cons, List.append_assoc, stringBody?_escapeChar,
      ih (Nat.lt_of_succ_lt_succ enough)]
    rfl

/-- No character is printed as nothing. -/
theorem length_le_flatMap_escapeChar (cs : List Char) :
    cs.length ≤ (cs.flatMap escapeChar).length := by
  induction cs with
  | nil => exact Nat.le_refl _
  | cons c cs ih =>
    have some : 1 ≤ (escapeChar c).length := by
      -- An escape is longer than its character, and any other character stands for itself.
      unfold escapeChar
      split_ifs <;> simp
    rw [List.flatMap_cons, List.length_append, List.length_cons]
    omega

/-- A string is read behind its opening quote. -/
theorem string?_print (s : String) (rest : List Char) :
    string? (s.toList.flatMap escapeChar ++ '"' :: rest) = some (s, rest) := by
  -- The budget is the length of all that is left to read.
  have enough : s.toList.length < (s.toList.flatMap escapeChar ++ '"' :: rest).length + 1 := by
    have := length_le_flatMap_escapeChar s.toList
    rw [List.length_append]
    omega
  rw [string?, stringBody?_print _ enough]
  simp

end Strings

section Numbers

/-- Decimal digits are a whole part: a number other than zero does not begin with one. -/
theorem wholePart?_toDigits (n : Nat) {rest : List Char}
    (stops : ∀ c ∈ rest.head?, c.isDigit = false) :
    wholePart? (Nat.toDigits 10 n ++ rest) = some (Nat.toDigits 10 n, rest) := by
  unfold wholePart?
  rw [Numeral.digits_append (fun _ => Numeral.isDigit_toDigits) stops]
  by_cases zero : n = 0
  · subst zero
    rfl
  · -- The digits of any other number do not begin with a zero, so that all of them are taken.
    have first := Numeral.head?_toDigits zero
    cases digits : Nat.toDigits 10 n with
    | nil => exact absurd digits Nat.toDigits_ne_nil
    | cons c cs =>
      rw [digits] at first
      split
      · next found => cases found
      · next found =>
        cases found
        exact absurd rfl first
      · rfl

/-- What closes a value goes on with no digit, no fraction and no power of ten. -/
theorem number?_toDigits {width : Nat} (negative : Bool) (n : Nat) {rest : List Char}
    (short : (Nat.toDigits 10 n).length + negative.toNat ≤ width) (closing : Closing rest) :
    number? width negative (Nat.toDigits 10 n ++ rest) =
      some (.int (Numeral.signed negative n), rest) := by
  -- None of the characters that close a value goes on with a number.
  have stops : ∀ c ∈ rest.head?, c.isDigit = false := by
    intro c first
    rcases closing c first with rfl | rfl | rfl <;> rfl
  have fraction : fractionPart? rest = some (none, rest) := by
    cases rest with
    | nil => rfl
    | cons c cs => rcases closing c rfl with rfl | rfl | rfl <;> rfl
  have power : powerPart? rest = some (none, rest) := by
    cases rest with
    | nil => rfl
    | cons c cs => rcases closing c rfl with rfl | rfl | rfl <;> rfl
  simp [number?, wholePart?_toDigits n stops, fraction, power, short, Numeral.value_toDigits]

/-- A numeral is no word and no string, so that it is read as a number. -/
theorem scalar?_of_digit {width : Nat} {c : Char} (digit : c.isDigit = true) (cs : List Char) :
    scalar? width (c :: cs) = number? width false (c :: cs) := by
  -- None of the ten digits is a quote, a minus or the first letter of a word.
  have member := Numeral.mem_of_isDigit digit
  simp only [List.mem_cons, List.not_mem_nil, or_false] at member
  rcases member with rfl | rfl | rfl | rfl | rfl | rfl | rfl | rfl | rfl | rfl <;> rfl

/-- Behind a minus there is a number too, if a digit follows. -/
theorem scalar?_of_minus {width : Nat} {c : Char} (digit : c.isDigit = true) (cs : List Char) :
    scalar? width ('-' :: c :: cs) = number? width true (c :: cs) := by
  -- The one word behind a minus begins with a letter.
  have member := Numeral.mem_of_isDigit digit
  simp only [List.mem_cons, List.not_mem_nil, or_false] at member
  rcases member with rfl | rfl | rfl | rfl | rfl | rfl | rfl | rfl | rfl | rfl <;> rfl

theorem toList_ofNat (n : Nat) : (toString (Int.ofNat n)).toList = Nat.toDigits 10 n := by
  simp [Int.toString_eq_repr, Int.repr, Nat.toList_repr]

theorem toList_negSucc (n : Nat) :
    (toString (Int.negSucc n)).toList = '-' :: Nat.toDigits 10 (n + 1) := by
  simp [Int.toString_eq_repr, Int.repr, Nat.toList_repr]

/-- The digits of a number begin with a digit. -/
theorem toDigits_eq_cons (n : Nat) : ∃ c cs, Nat.toDigits 10 n = c :: cs ∧ c.isDigit = true := by
  cases digits : Nat.toDigits 10 n with
  | nil => exact absurd digits Nat.toDigits_ne_nil
  | cons c cs => exact ⟨c, cs, rfl, Numeral.isDigit_toDigits (n := n) (by simp [digits])⟩

/-- A whole number is read as it is printed. -/
theorem scalar?_int {width : Nat} {n : Int} (short : (toString n).length ≤ width)
    {rest : List Char} (closing : Closing rest) :
    scalar? width ((toString n).toList ++ rest) = some (.int n, rest) := by
  rw [← String.length_toList] at short
  -- A number below zero is printed behind a minus, which counts among its characters.
  cases n with
  | ofNat m =>
    rw [toList_ofNat] at short ⊢
    have read := number?_toDigits false m (by simpa using short) closing
    obtain ⟨c, cs, digits, digit⟩ := toDigits_eq_cons m
    rw [digits] at read ⊢
    exact (scalar?_of_digit digit (cs ++ rest)).trans read
  | negSucc m =>
    rw [toList_negSucc] at short ⊢
    have read := number?_toDigits true (m + 1) (by simpa using short) closing
    obtain ⟨c, cs, digits, digit⟩ := toDigits_eq_cons (m + 1)
    rw [digits] at read ⊢
    refine (scalar?_of_minus digit (cs ++ rest)).trans (read.trans ?_)
    simp [Numeral.signed, Int.negSucc_eq]

/-- A whole number begins with a digit or a minus, which is no space and no bracket. -/
theorem toString_int_eq_cons (n : Int) : ∃ c cs, (toString n).toList = c :: cs ∧
    isSpace c = false ∧ c ≠ ']' ∧ c ≠ '[' ∧ c ≠ '\x7b' := by
  cases n with
  | ofNat m =>
    obtain ⟨c, cs, digits, digit⟩ := toDigits_eq_cons m
    refine ⟨c, cs, (toList_ofNat m).trans digits, ?_⟩
    have member := Numeral.mem_of_isDigit digit
    simp only [List.mem_cons, List.not_mem_nil, or_false] at member
    rcases member with rfl | rfl | rfl | rfl | rfl | rfl | rfl | rfl | rfl | rfl <;> decide
  | negSucc m => exact ⟨_, _, toList_negSucc m, by decide⟩

end Numbers

section Containers

variable {read : Read}

/-- Items are taken one after another, up to the bracket behind the last. -/
theorem items?_print {items : List Value} (some : items ≠ []) (takes : ∀ item ∈ items, Takes read item)
    {budget : Nat} (enough : items.length ≤ budget) (rest : List Char) :
    items? read budget (printItems items ++ ']' :: rest) = .some (items, rest) := by
  -- The induction is on the items; what stands behind an item is a comma, or the bracket.
  induction items generalizing budget with
  | nil => exact absurd rfl some
  | cons item items ih =>
    obtain ⟨budget, rfl⟩ := Nat.exists_eq_succ_of_ne_zero (Nat.ne_of_gt (Nat.zero_lt_of_lt enough))
    have taken := takes item (List.mem_cons_self ..)
    cases items with
    | nil =>
      rw [printItems, items?, taken (']' :: rest) (by simp [Closing])]
      rfl
    | cons next others =>
      -- The reader goes on behind the comma, with one less to take.
      have behind := ih nofun (fun other member => takes other (List.mem_cons_of_mem _ member))
        (Nat.le_of_succ_le_succ enough)
      have comma : printItems (item :: next :: others) ++ ']' :: rest =
          printValue item ++ ',' :: (printItems (next :: others) ++ ']' :: rest) := by
        simp [printItems]
      rw [comma, items?, taken _ (by simp [Closing])]
      show (items? read budget (printItems (next :: others) ++ ']' :: rest) >>= fun found => _) = _
      rw [behind]
      rfl

/-- A member is taken with its key and its colon. -/
theorem member?_print {key : String} {value : Value} (takes : Takes read value) {rest : List Char}
    (closing : Closing rest) :
    member? read (printString key ++ ':' :: (printValue value ++ rest)) =
      some ((key, value), rest) := by
  have opened : printString key ++ ':' :: (printValue value ++ rest) =
      '"' :: (key.toList.flatMap escapeChar ++ '"' :: ':' :: (printValue value ++ rest)) := by
    simp [printString]
  -- Behind the key there is its colon, and behind that the value.
  have value := takes rest closing
  rw [opened, member?, skipSpace_cons rfl]
  simp [string?_print, skipSpace_cons (rfl : isSpace ':' = false), value]

/-- Behind its opening bracket, an array that is not closed at once has items. -/
theorem array?_of_item {c : Char} (dark : isSpace c = false) (goesOn : c ≠ ']') (cs : List Char) :
    array? read (c :: cs) = (items? read ((c :: cs).length + 1) (c :: cs)).map
      fun (items, rest) => (.list items, rest) := by
  unfold array?
  rw [skipSpace_cons dark]
  split
  · next closed =>
    -- Only a bracket closes an array at once.
    cases closed
    exact absurd rfl goesOn
  · rfl

/-- Behind its opening brace, an object that begins with a quote has members. -/
theorem object?_of_key (cs : List Char) :
    object? read ('"' :: cs) = (members? read (('"' :: cs).length + 1) ('"' :: cs)).map
      fun (members, rest) => (.record (collect members), rest) := rfl

/-- Members are taken one after another, up to the brace behind the last. -/
theorem members?_print {members : Members} (some : members ≠ [])
    (takes : ∀ member ∈ members, Takes read member.2) {budget : Nat}
    (enough : members.length ≤ budget) (rest : List Char) :
    members? read budget (printMembers members ++ '\x7d' :: rest) = .some (members, rest) := by
  -- The induction is on the members, as it is on the items of an array.
  induction members generalizing budget with
  | nil => exact absurd rfl some
  | cons member members ih =>
    obtain ⟨key, value⟩ := member
    obtain ⟨budget, rfl⟩ := Nat.exists_eq_succ_of_ne_zero (Nat.ne_of_gt (Nat.zero_lt_of_lt enough))
    have taken : Takes read value := takes (key, value) (List.mem_cons_self ..)
    cases members with
    | nil =>
      have text : printMembers [(key, value)] ++ '\x7d' :: rest =
          printString key ++ ':' :: (printValue value ++ '\x7d' :: rest) := by
        simp [printMembers]
      rw [text, members?, member?_print taken (by simp [Closing])]
      rfl
    | cons next others =>
      have behind := ih nofun (fun other member => takes other (List.mem_cons_of_mem _ member))
        (Nat.le_of_succ_le_succ enough)
      have text : printMembers ((key, value) :: next :: others) ++ '\x7d' :: rest =
          printString key ++ ':' ::
            (printValue value ++ ',' :: (printMembers (next :: others) ++ '\x7d' :: rest)) := by
        simp [printMembers]
      rw [text, members?, member?_print taken (by simp [Closing])]
      show (members? read budget (printMembers (next :: others) ++ '\x7d' :: rest) >>=
        fun found => _) = _
      rw [behind]
      rfl

end Containers

/-- What is printed begins with a character that is no space and closes nothing. -/
theorem Legible.printValue_eq_cons {width depth : Nat} {value : Value}
    (legible : Legible width depth value) : ∃ c cs, printValue value = c :: cs ∧
      isSpace c = false ∧ c ≠ ']' := by
  cases legible with
  | null => exact ⟨_, _, rfl, rfl, by decide⟩
  | bool told => cases told <;> exact ⟨_, _, rfl, rfl, by decide⟩
  | int n short =>
    obtain ⟨c, cs, text, dark, closes, _⟩ := toString_int_eq_cons n
    exact ⟨c, cs, text, dark, closes⟩
  | text s => exact ⟨_, _, rfl, rfl, by decide⟩
  | list each => exact ⟨_, _, rfl, rfl, by decide⟩
  | record once each => exact ⟨_, _, rfl, rfl, by decide⟩

/-- The text of items begins with that of the first of them. -/
theorem printItems_eq_cons {width depth : Nat} {items : List Value} (some : items ≠ [])
    (each : ∀ item ∈ items, Legible width depth item) : ∃ c cs, printItems items = c :: cs ∧
      isSpace c = false ∧ c ≠ ']' := by
  cases items with
  | nil => exact absurd rfl some
  | cons item items =>
    obtain ⟨c, cs, text, plain⟩ := (each item (List.mem_cons_self ..)).printValue_eq_cons
    cases items with
    | nil => exact ⟨c, cs, text, plain⟩
    | cons next others =>
      -- What stands behind the first item makes no difference to how the text begins.
      refine ⟨c, cs ++ ',' :: printItems (next :: others), ?_, plain⟩
      show printValue item ++ _ = _
      rw [text, List.cons_append]

/-- The text of members begins with a quote. -/
theorem printMembers_eq_cons {members : Members} (some : members ≠ []) :
    ∃ cs, printMembers members = '"' :: cs := by
  rcases members with _ | ⟨⟨key, value⟩, _ | ⟨next, others⟩⟩
  · exact absurd rfl some
  · exact ⟨_, rfl⟩
  · exact ⟨_, rfl⟩

/-- No item is printed as nothing. -/
theorem length_le_printItems {width depth : Nat} {items : List Value}
    (each : ∀ item ∈ items, Legible width depth item) : items.length ≤ (printItems items).length := by
  induction items with
  | nil => exact Nat.le_refl _
  | cons item items ih =>
    obtain ⟨c, cs, text, _⟩ := (each item (List.mem_cons_self ..)).printValue_eq_cons
    have behind := ih fun other member => each other (List.mem_cons_of_mem _ member)
    cases items with
    | nil => simp [printItems, text]
    | cons next others =>
      simp only [printItems, text, List.length_append, List.length_cons] at behind ⊢
      omega

theorem length_le_printMembers (members : Members) :
    members.length ≤ (printMembers members).length := by
  induction members with
  | nil => exact Nat.le_refl _
  | cons member members ih =>
    -- Each member has at least the quotes around its key.
    obtain ⟨key, value⟩ := member
    cases members with
    | nil => simp [printMembers, printString]
    | cons next others =>
      simp only [printMembers, List.length_append, List.length_cons] at ih ⊢
      omega

/-- A key that is not there yet is put at the end. -/
theorem put_of_notMem {key : String} {members : Members} (absent : key ∉ members.map Prod.fst)
    (value : Value) : members.put key value = members ++ [(key, value)] := by
  induction members with
  | nil => rfl
  | cons member members ih =>
    rw [List.map_cons, List.mem_cons, not_or] at absent
    rw [Members.put, if_neg (Ne.symm absent.1), ih absent.2, List.cons_append]

/-- Members whose keys are all different are collected as they are. -/
theorem collect_of_nodup {members : Members} (once : (members.map Prod.fst).Nodup) :
    collect members = members := by
  have grows : ∀ found behind : Members, ((found ++ behind).map Prod.fst).Nodup →
      behind.foldl (fun found member => found.put member.1 member.2) found = found ++ behind := by
    intro found behind
    -- The induction is on the members to come, behind any that have been collected.
    induction behind generalizing found with
    | nil => simp
    | cons member behind ih =>
      intro once
      obtain ⟨key, value⟩ := member
      have absent : key ∉ found.map Prod.fst := by
        rw [List.map_append, List.map_cons, List.nodup_append] at once
        intro there
        exact once.2.2 _ there _ (List.mem_cons_self ..) rfl
      have last : found.put key value = found ++ [(key, value)] := put_of_notMem absent value
      rw [List.foldl_cons, last, ih _ (by simpa using once), List.append_assoc]
      rfl
  exact grows [] members once

/-- What opens no array and no object is read as a scalar. -/
theorem value?_of_scalar {width depth : Nat} {c : Char} (dark : isSpace c = false)
    (noArray : c ≠ '[') (noObject : c ≠ '\x7b') (cs : List Char) :
    value? width depth (c :: cs) = scalar? width (c :: cs) := by
  -- How many levels are left counts for brackets and braces alone.
  cases depth with
  | zero => simp [value?, skipSpace_cons dark, noArray, noObject]
  | succ depth => simp [value?, skipSpace_cons dark, noArray, noObject]

/-- Data is read as it is printed by every reader that takes it on. -/
theorem Legible.takes {width depth : Nat} {value : Value} (legible : Legible width depth value) :
    Takes (value? width depth) value := by
  -- The induction is on the data; arrays and objects are read by the reader of one level less.
  induction legible with
  | null =>
    intro rest closing
    exact value?_of_scalar (by decide) (by decide) (by decide) _
  | bool told =>
    intro rest closing
    cases told <;> exact value?_of_scalar (by decide) (by decide) (by decide) _
  | int n short =>
    intro rest closing
    have read := scalar?_int short closing
    obtain ⟨c, cs, text, dark, _, noArray, noObject⟩ := toString_int_eq_cons n
    rw [text] at read
    rw [printValue, text]
    exact (value?_of_scalar dark noArray noObject _).trans read
  | text s =>
    intro rest closing
    refine (value?_of_scalar (by decide) (by decide) (by decide) _).trans ?_
    show (string? (s.toList.flatMap escapeChar ++ ['"'] ++ rest)).map _ = _
    rw [List.append_assoc, List.singleton_append, string?_print]
    rfl
  | @list depth items each ih =>
    intro rest closing
    show array? (value? width depth) (printItems items ++ [']'] ++ rest) = _
    rw [List.append_assoc, List.singleton_append]
    -- An empty array is closed at once, and any other is read item by item.
    by_cases none : items = []
    · subst none
      rfl
    · obtain ⟨c, cs, text, dark, closes⟩ := printItems_eq_cons none each
      have enough : items.length ≤ (printItems items ++ ']' :: rest).length + 1 := by
        have := length_le_printItems each
        rw [List.length_append]
        omega
      have taken := items?_print none ih enough rest
      rw [text, List.cons_append] at taken ⊢
      rw [array?_of_item dark closes, taken]
      rfl
  | @record depth members once each ih =>
    intro rest closing
    show object? (value? width depth) (printMembers members ++ ['\x7d'] ++ rest) = _
    rw [List.append_assoc, List.singleton_append]
    by_cases none : members = []
    · subst none
      rfl
    · obtain ⟨cs, text⟩ := printMembers_eq_cons none
      have enough : members.length ≤ (printMembers members ++ '\x7d' :: rest).length + 1 := by
        have := length_le_printMembers members
        rw [List.length_append]
        omega
      have taken := members?_print none ih enough rest
      rw [text, List.cons_append] at taken ⊢
      rw [object?_of_key, taken]
      show some (Value.record (collect members), rest) = _
      rw [collect_of_nodup once]

/-- A text that is printed for data is read as that data, if it is within the limits for the service. -/
theorem readText?_print {value : Value}
    (legible : Legible Limits.usual.width Limits.usual.depth value) :
    readText? (printValue value) = some value := by
  -- Nothing stands behind the data, so that nothing is left over.
  have taken := legible.takes [] nofun
  rw [List.append_nil] at taken
  simp [readText?, Limits.value?, taken, skipSpace]

theorem read?_print {value : Value}
    (legible : Legible Limits.usual.width Limits.usual.depth value) :
    read? (Utf8.encode (print value)) = some value := by
  rw [read?, print, Utf8.encode, String.toList_ofList, Utf8.decodeList?_flatMap]
  exact readText?_print legible

end Issuance.Json
