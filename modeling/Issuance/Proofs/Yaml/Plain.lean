import Issuance.Proofs.Yaml.Cursor
import Issuance.Yaml.Printer
import Issuance.Yaml.Token
import Mathlib.Data.List.SplitBy

/-! A text that is written without quotes is read back, over all the lines it is folded into. -/

namespace Issuance.Yaml

namespace Leaf

/-- Runs of one kind of character each, next to runs of another kind. -/
inductive Alternating : List (List Char) → Prop
  | nil : Alternating []
  | cons {kind : Nat} {run : List Char} {rest : List (List Char)} (filled : run ≠ [])
      (alike : ∀ c ∈ run, kindOf c = kind) (other : ∀ c ∈ rest.flatten.head?, kindOf c ≠ kind)
      (more : Alternating rest) : Alternating (run :: rest)

theorem kindOf_space {c : Char} : kindOf c = 0 ↔ c = ' ' := by
  unfold kindOf
  split
  · simp [*]
  · split <;> simp [*]

theorem kindOf_lineFeed {c : Char} : kindOf c = 1 ↔ c = '\n' := by
  unfold kindOf
  split
  · next space => simp [space]
  · split <;> simp [*]

theorem kindOf_printed {c : Char} (printed : Printed c) : kindOf c = if c = ' ' then 0 else 2 := by
  unfold kindOf
  split
  · rfl
  · rw [if_neg (printed.ne (by decide))]

theorem alike_of_isChain {run : List Char}
    (chain : run.IsChain fun a b => (kindOf a == kindOf b) = true) :
    ∃ kind, ∀ c ∈ run, kindOf c = kind := by
  induction run with
  | nil => exact ⟨0, nofun⟩
  | cons a run ih =>
    cases run with
    | nil => exact ⟨kindOf a, by simp⟩
    | cons b run =>
      obtain ⟨same, more⟩ := List.isChain_cons_cons.mp chain
      obtain ⟨kind, alike⟩ := ih more
      refine ⟨kind, List.forall_mem_cons.mpr ⟨?_, alike⟩⟩
      rw [beq_iff_eq.mp same, alike b (by simp)]

/-- The runs of a text alternate. -/
theorem alternating_runs (cs : List Char) : Alternating (runs cs) := by
  have filled : [] ∉ runs cs := List.nil_notMem_splitBy _ cs
  have inside : ∀ run ∈ runs cs, run.IsChain fun a b => (kindOf a == kindOf b) = true :=
    fun run member => List.isChain_of_mem_splitBy member
  have between := List.isChain_getLast_head_splitBy (fun a b => kindOf a == kindOf b) cs
  change (runs cs).IsChain _ at between
  -- What holds of all runs holds of those behind the first one.
  generalize runs cs = found at filled inside between
  induction found with
  | nil => exact .nil
  | cons run rest ih =>
    obtain ⟨kind, alike⟩ := alike_of_isChain (inside run (by simp))
    refine .cons (fun empty => filled (by simp [empty])) alike ?_ (ih
      (fun member => filled (List.mem_cons_of_mem _ member))
      (fun next member => inside next (List.mem_cons_of_mem _ member)) between.tail)
    cases rest with
    | nil => exact nofun
    | cons next rest =>
      obtain ⟨last, first, apart⟩ := (List.isChain_cons_cons.mp between).1
      intro c member
      rw [List.flatten_cons, List.head?_append_of_ne_nil _ first,
        List.head?_eq_some_head first] at member
      cases member
      rw [← alike _ (List.getLast_mem last)]
      exact fun same => beq_eq_false_iff_ne.mp apart same.symm

theorem flatten_runs (cs : List Char) : (runs cs).flatten = cs := List.flatten_splitBy _ cs

/-- A word that is read as part of a plain text, whatever gap follows. -/
structure Word (cs : List Char) : Prop where
  filled : cs ≠ []
  printed : ∀ c ∈ cs, Printed c ∧ c ≠ ' '
  head : cs.head? ≠ some '#'
  last : cs.getLast? ≠ some ':'

/-- Words with spaces between them. -/
inductive Spaced : List (List Char) → Prop
  | last {word : List Char} : Word word → Spaced [word]
  | more {word : List Char} (count : Nat) {rest : List (List Char)} :
      Word word → Spaced rest → Spaced (word :: List.replicate (count + 1) ' ' :: rest)

theorem plain_word {word : List Char} (isWord : Word word) (column : Nat)
    (rest : List (List Char)) :
    plain column (word :: rest) = word ++ plain (column + word.length) rest := by
  -- Only at a single space may a line be folded.
  have other : word ≠ [' '] := by
    rintro rfl
    exact (isWord.printed ' ' (by simp)).2 rfl
  rw [plain, if_neg (fun folds => other folds.1)]

/-- A mark in a part of a text is one in the text. -/
theorem holdsMark_append (front : List Char) {cs : List Char} (holds : holdsMark cs = true) :
    holdsMark (front ++ cs) = true := by
  induction front with
  | nil => exact holds
  | cons c front ih =>
    cases shape : front ++ cs with
    | nil =>
      rw [shape] at ih
      cases ih
    | cons d rest =>
      rw [List.cons_append, shape, holdsMark, ← shape, ih, Bool.or_true]

/-- Behind a gap, what is up to the next gap is a word, if there is no mark in it. -/
theorem word_of_unmarked {word back : List Char} (filled : word ≠ [])
    (printed : ∀ c ∈ word, Printed c ∧ c ≠ ' ') (gap : gapOrEnd back.head? = true)
    (unmarked : holdsMark (' ' :: word ++ back) = false) : Word word where
  filled := filled
  printed := printed
  head := by
    intro hash
    obtain ⟨rest, rfl⟩ := List.head?_eq_some_iff.mp hash
    rw [List.cons_append, List.cons_append, holdsMark] at unmarked
    simp [isGap] at unmarked
  last := by
    intro colon
    -- With the gap behind it the colon would be a mark at the end of the word.
    obtain ⟨front, rfl⟩ := List.getLast?_eq_some_iff.mp colon
    obtain ⟨front', c, shape⟩ := (List.eq_nil_or_concat (' ' :: front)).resolve_left (by simp)
    have marked : holdsMark (c :: ':' :: back) = true := by simp [holdsMark, gap]
    have whole : ' ' :: (front ++ [':']) ++ back = front' ++ (c :: ':' :: back) := by
      rw [← List.cons_append, shape]
      simp
    rw [whole, holdsMark_append _ marked] at unmarked
    cases unmarked

theorem Alternating.flatten_ne_nil {found : List (List Char)} (runs : Alternating found)
    (some : found ≠ []) : found.flatten ≠ [] := by
  cases runs with
  | nil => exact absurd rfl some
  | cons filled _ _ _ => simp [filled]

/-- A run that does not begin with a space, or a line feed, has none in it. -/
theorem ne_of_head {run : List Char} {kind : Nat} {gap : Char}
    (own : ∀ c, kindOf c = kindOf gap → c = gap) (alike : ∀ c ∈ run, kindOf c = kind)
    (head : run.head? ≠ some gap) : ∀ c ∈ run, c ≠ gap := by
  rintro c member rfl
  cases run with
  | nil => cases member
  | cons d run =>
    have same := (alike d (by simp)).trans (alike c member).symm
    exact head (congrArg some (own d same))

theorem eq_space {c : Char} (same : kindOf c = kindOf ' ') : c = ' ' := kindOf_space.mp same

theorem eq_lineFeed {c : Char} (same : kindOf c = kindOf '\n') : c = '\n' := kindOf_lineFeed.mp same

theorem exists_replicate {c : Char} {run : List Char} (filled : run ≠ []) (only : ∀ d ∈ run, d = c) :
    ∃ count, run = List.replicate (count + 1) c := by
  obtain ⟨count, length⟩ := Nat.exists_eq_add_one_of_ne_zero (List.length_pos_of_ne_nil filled).ne'
  refine ⟨count, ?_⟩
  rw [← length]
  exact List.eq_replicate_of_mem only

/-- The run behind a word is of the one other kind that printed characters have, spaces. -/
theorem eq_space_of_other {word gap : List Char} {kind kind' : Nat} (filled : word ≠ [])
    (solid : ∀ c ∈ word, Printed c ∧ c ≠ ' ') (alike : ∀ c ∈ word, kindOf c = kind)
    (printed : ∀ c ∈ gap, Printed c) (alike' : ∀ c ∈ gap, kindOf c = kind')
    (other : ∀ c ∈ gap.head?, kindOf c ≠ kind) : ∀ c ∈ gap, c = ' ' := by
  intro c member
  by_contra apart
  obtain ⟨w, word, rfl⟩ := List.exists_cons_of_ne_nil filled
  obtain ⟨g, gap, rfl⟩ := List.exists_cons_of_ne_nil (List.ne_nil_of_mem member)
  obtain ⟨first, space⟩ := solid w (by simp)
  have same : kindOf g = kindOf c := (alike' g (by simp)).trans (alike' c member).symm
  refine other g rfl ?_
  rw [same, ← alike w (by simp), kindOf_printed (printed c member), if_neg apart,
    kindOf_printed first, if_neg space]

/-- Printed runs that neither begin nor end with a space, and hold no mark, are words and gaps. -/
theorem Alternating.spaced : {found : List (List Char)} → Alternating found → found ≠ [] →
    (∀ c ∈ found.flatten, Printed c) → found.flatten.head? ≠ some ' ' →
    found.flatten.getLast? ≠ some ' ' → holdsMark (' ' :: found.flatten) = false → Spaced found
  | [], _, filled, _, _, _, _ => absurd rfl filled
  | [word], .cons filled alike _ _, _, printed, head, _, unmarked => by
    rw [List.flatten_cons, List.flatten_nil, List.append_nil] at printed head unmarked
    have inside := ne_of_head (fun _ => eq_space) alike head
    exact .last (@word_of_unmarked word [] filled
      (fun c member => ⟨printed c member, inside c member⟩) rfl (by rwa [List.append_nil]))
  | word :: gap :: rest, .cons filled alike other (.cons filled' alike' other' more), _, printed,
    head, last, unmarked => by
    simp only [List.flatten_cons] at printed head last unmarked other
    rw [List.head?_append_of_ne_nil _ filled] at head
    rw [List.head?_append_of_ne_nil _ filled'] at other
    have inside := ne_of_head (fun _ => eq_space) alike head
    have solid : ∀ c ∈ word, Printed c ∧ c ≠ ' ' := fun c member =>
      ⟨printed c (by simp [member]), inside c member⟩
    obtain ⟨count, rfl⟩ := exists_replicate filled' (eq_space_of_other filled solid alike
      (fun c member => printed c (by simp [member])) alike' other)
    -- The spaces are not the end of the text, and so another word follows.
    have some : rest ≠ [] := by
      rintro rfl
      rw [List.flatten_nil, List.append_nil, List.replicate_succ', ← List.append_assoc,
        List.getLast?_concat] at last
      exact last rfl
    have some' := more.flatten_ne_nil some
    refine .more count (word_of_unmarked filled solid rfl unmarked) (more.spaced some ?_ ?_ ?_ ?_)
    · exact fun c member => printed c (by simp [member])
    · intro space
      exact other' ' ' space (by rw [← alike' ' ' (by simp [List.replicate_succ])])
    · rwa [List.getLast?_append_of_ne_nil _ (by simp [some']), List.getLast?_append_of_ne_nil _ some'] at last
    · -- The last space of the gap stands before what follows, as a mark would need it.
      rw [Bool.eq_false_iff] at unmarked ⊢
      intro marked
      refine unmarked ?_
      have whole : ' ' :: (word ++ (List.replicate (count + 1) ' ' ++ rest.flatten)) =
          (' ' :: word ++ List.replicate count ' ') ++ ' ' :: rest.flatten := by
        simp [List.replicate_succ']
      rw [whole]
      exact holdsMark_append _ marked

/-- Without need of an escape a character is printed, or a line feed. -/
theorem printed_of_not_isSpecial {c : Char} (usual : isSpecial c = false) (other : c ≠ '\n') :
    Printed c := by
  simpa [isSpecial, other, Printed] using usual

/-- A text that may be plain is words with spaces between them. -/
theorem spaced_of_mayBePlain {s : String} (plain : mayBePlain s = true) :
    Spaced (runs s.toList) ∧ startsMarked s.toList = false ∧ Tag.ofPlain s = .text := by
  simp only [mayBePlain, Bool.and_eq_true, Bool.not_eq_true', bne_iff_ne, decide_eq_true_eq] at plain
  obtain ⟨⟨⟨⟨⟨ordinary, head⟩, last⟩, start⟩, inside⟩, tag⟩ := plain
  have some : s.toList ≠ [] := by
    intro empty
    rw [String.toList_eq_nil_iff.mp empty] at tag
    cases tag
  have printed : ∀ c ∈ s.toList, Printed c := by
    intro c member
    have plain := Bool.eq_false_iff.mpr (List.any_eq_false.mp ordinary c member)
    obtain ⟨usual, lineFeed⟩ := Bool.or_eq_false_iff.mp plain
    exact printed_of_not_isSpecial usual (beq_eq_false_iff_ne.mp lineFeed)
  -- The first character is no mark either, though nothing stands before it.
  have unmarked : holdsMark (' ' :: s.toList) = false := by
    obtain ⟨c, rest, shape⟩ := List.exists_cons_of_ne_nil some
    rw [shape] at start inside ⊢
    simp only [startsMarked, Bool.or_eq_false_iff] at start
    have hash : c ≠ '#' := by
      rintro rfl
      rw [String.contains_char_eq] at start
      exact absurd start.1.1.1 (by decide)
    have colon : (c == ':' && gapOrEnd rest.head?) = false := by
      by_cases same : c = ':'
      · have mark := start.1.1.2
        rw [same, String.contains_char_eq] at mark
        rw [same]
        exact mark
      · simp [same]
    rw [holdsMark, colon, inside]
    simp [hash]
  have filled : runs s.toList ≠ [] := List.splitBy_ne_nil.mpr some
  exact ⟨(alternating_runs _).spaced filled (by rwa [flatten_runs]) (by rwa [flatten_runs])
    (by rwa [flatten_runs]) (by rwa [flatten_runs]), start, tag⟩

end Leaf

namespace Cursor

open Leaf (Word Spaced plain_word)

variable {cursor : Cursor} {next : List Char}

/-- All of a word is taken, and nothing behind it that cannot go on with it. -/
theorem plainLength_append {word back : List Char} (printed : ∀ c ∈ word, Printed c ∧ c ≠ ' ')
    (last : word.getLast? ≠ some ':') (stop : plainLength false back = 0) :
    plainLength false (word ++ back) = word.length := by
  induction word with
  | nil => exact stop
  | cons c word ih =>
    obtain ⟨first, apart⟩ := printed c (by simp)
    have more := ih (fun d member => printed d (by simp [member]))
    -- A colon in a word is not its last character, so that no gap follows it.
    have colon : (c == ':' && gapOrEnd (word ++ back).head?) = false := by
      cases word with
      | nil =>
        have other : c ≠ ':' := fun same => last (by rw [same]; rfl)
        simp [other]
      | cons d word =>
        obtain ⟨second, apart'⟩ := printed d (by simp)
        simp [gapOrEnd, second.isGap apart']
    have last' : word.getLast? ≠ some ':' := by
      cases word with
      | nil => simp
      | cons d word => simpa using last
    simp only [List.cons_append, plainLength, first.isGap apart, Bool.false_and, Bool.or_false, colon,
      Bool.false_eq_true, if_false, more last', List.length_cons]

theorem plainLength_gap {back : List Char} (gap : gapOrEnd back.head? = true) :
    plainLength false back = 0 := by
  cases back with
  | nil => rfl
  | cons c back =>
    have : isGap c = true := gap
    simp [plainLength, this]

/-- What begins behind the gap: nothing, or a printed character that begins no line of marks. -/
def Starts (next : List Char) : Prop :=
  ∀ c ∈ next.head?, Printed c ∧ c ≠ ' ' ∧ c ≠ '#'

theorem Starts.isBreak (starts : Starts next) : ∀ c ∈ next.head?, isBreak c = false :=
  fun c member => (starts c member).1.isBreak

theorem Starts.peek (starts : Starts cursor.rest) : cursor.peek ≠ some '#' ∧ cursor.peek ≠ some ' ' :=
  ⟨fun hash => (starts '#' hash).2.2 rfl, fun space => (starts ' ' space).2.1 rfl⟩

/-- What a line without indentation begins with, which is no mark between documents. -/
structure StartsLine (next : List Char) : Prop where
  starts : Starts next
  separator : ∀ c ∈ next.head?, c ≠ '-' ∧ c ≠ '.'

/-- Spaces before a word are a gap. -/
theorem plainGap_spaces {count : Nat} (shape : cursor.rest = List.replicate count ' ' ++ next)
    (starts : Starts next) :
    cursor.plainGap = (List.replicate count ' ', false, cursor.forward count) := by
  have spaces := @span_spaces cursor next (· == ' ') count rfl shape
    fun c member => beq_eq_false_iff_ne.mpr (starts c member).2.1
  unfold plainGap
  simp only [spaces]
  rw [lineBreak?_none (by rw [forward_replicate shape]; exact starts.isBreak)]

/-- Spaces that indent a line are passed over. -/
theorem plainBreaks_spaces {count fuel : Nat} (shape : cursor.rest = List.replicate count ' ' ++ next)
    (starts : Starts next) (enough : count < fuel) :
    cursor.plainBreaks fuel = (some [], cursor.forward count) := by
  induction fuel generalizing cursor count with
  | zero => omega
  | succ fuel ih =>
    unfold plainBreaks
    cases count with
    | zero =>
      obtain rfl : cursor.rest = next := shape
      rw [lineBreak?_none starts.isBreak]
      simp only [if_neg starts.peek.2]
      rfl
    | succ count =>
      rw [List.replicate_succ, List.cons_append] at shape
      rw [lineBreak?_none (by rw [shape]; rintro c ⟨⟩; decide)]
      simp only [if_pos (peek_cons shape)]
      exact ih (step_cons shape) (by omega)

/-- The end of a line, with the spaces that indent the next one, is one space. -/
theorem plainGap_lineFeed {count : Nat} (shape : cursor.rest = '\n' :: (List.replicate count ' ' ++ next))
    (starts : Starts next) (separator : cursor.step.atSeparator = false) :
    cursor.plainGap = ([' '], true, cursor.forward (count + 1)) := by
  have rest := step_cons shape
  have none : cursor.span (· == ' ') = ([], cursor) :=
    span_none (by rw [shape]; rintro c ⟨⟩; decide)
  have enough : count < cursor.step.rest.length + 1 := by
    rw [rest, List.length_append, List.length_replicate]
    omega
  unfold plainGap
  simp only [none, lineBreak?_lineFeed shape, separator, Bool.false_eq_true, if_false,
    plainBreaks_spaces rest starts enough]
  rfl

theorem starts_plain {found : List (List Char)} (spaced : Spaced found) (column : Nat)
    (back : List Char) : Starts (Leaf.plain column found ++ back) := by
  have first : ∀ {word : List Char} {rest : List (List Char)}, Word word →
      Starts (Leaf.plain column (word :: rest) ++ back) := by
    intro word rest isWord c member
    rw [plain_word isWord, List.append_assoc, List.head?_append_of_ne_nil _ isWord.filled] at member
    refine ⟨(isWord.printed c (List.mem_of_mem_head? member)).1,
      (isWord.printed c (List.mem_of_mem_head? member)).2, ?_⟩
    rintro rfl
    exact isWord.head member
  cases spaced with
  | last isWord => exact first isWord
  | more count isWord rest => exact first isWord

section Words

variable {word back gap before more : List Char} {crossed keyAllowed later : Bool}
  {after last : Cursor} {indent : Int} {fuel : Nat}

/-- A word is taken whole, and then the gap behind it decides whether it was the last one. -/
theorem plainWords_word (isWord : Word word) (shape : cursor.rest = word ++ back)
    (stop : plainLength false back = 0)
    (found : (cursor.forward word.length).plainGap = (gap, crossed, after))
    (rest : after.plainWords false indent gap crossed fuel = (more, later, last)) :
    cursor.plainWords false indent before keyAllowed (fuel + 1) =
      if gap.isEmpty || after.peek == some '#' || decide ((after.column : Int) < indent)
      then (before ++ word, crossed, after)
      else (before ++ word ++ more, later, last) := by
  have length := plainLength_append isWord.printed isWord.last stop
  have filled : word.length ≠ 0 := (List.length_pos_of_ne_nil isWord.filled).ne'
  have other : cursor.peek ≠ some '#' := by
    rw [peek, shape, List.head?_append_of_ne_nil _ isWord.filled]
    exact isWord.head
  have taken : cursor.rest.take word.length = word := by rw [shape, List.take_left]
  rw [← shape] at length
  simp only [plainWords, if_neg other, length, if_neg filled, taken, found, rest, Bool.not_false,
    Bool.true_and]

/-- A scalar ends behind a word that no gap follows, or one that leads to a lesser indentation. -/
theorem plainWords_stop (isWord : Word word) (shape : cursor.rest = word ++ back)
    (stop : plainLength false back = 0)
    (found : (cursor.forward word.length).plainGap = (gap, crossed, after))
    (ends : gap = [] ∨ (after.column : Int) < indent) :
    cursor.plainWords false indent before keyAllowed (fuel + 1) = (before ++ word, crossed, after) := by
  rw [plainWords_word isWord shape stop found rfl]
  rcases ends with rfl | less
  · simp
  · simp [less]

/-- A gap that another word follows is part of the scalar, at an indentation of one. -/
theorem plainWords_more (isWord : Word word) (shape : cursor.rest = word ++ back)
    (stop : plainLength false back = 0)
    (found : (cursor.forward word.length).plainGap = (gap, crossed, after)) (filled : gap ≠ [])
    (starts : Starts after.rest) (inside : 0 < after.column)
    (rest : after.plainWords false 1 gap crossed fuel = (more, later, last)) :
    cursor.plainWords false 1 before keyAllowed (fuel + 1) = (before ++ word ++ more, later, last) := by
  have within : ¬ (after.column : Int) < 1 := by omega
  rw [plainWords_word isWord shape stop found rest, if_neg]
  simp [filled, starts.peek.1, within]

/-- Spaces between two words of a line stand for themselves. -/
theorem plainWords_gap {count : Nat} (isWord : Word word)
    (shape : cursor.rest = word ++ (List.replicate (count + 1) ' ' ++ back)) (starts : Starts back)
    (rest : ((cursor.forward word.length).forward (count + 1)).plainWords false 1
      (List.replicate (count + 1) ' ') false fuel = (more, later, last)) :
    cursor.plainWords false 1 before keyAllowed (fuel + 1) = (before ++ word ++ more, later, last) := by
  have behind := forward_append shape
  refine plainWords_more isWord shape (plainLength_gap (by rfl)) (plainGap_spaces behind starts)
    (by simp) ?_ ?_ rest
  · rw [forward_replicate behind]
    exact starts
  · rw [column_spaces behind]
    exact Nat.add_pos_right _ (Nat.succ_pos count)

/-- A new line between two words, with the spaces that indent it, stands for one space. -/
theorem plainWords_newLine (isWord : Word word)
    (shape : cursor.rest = word ++ (Leaf.newLine ++ back)) (starts : Starts back)
    (rest : ((cursor.forward word.length).forward Leaf.newLine.length).plainWords false 1 [' '] true
      fuel = (more, later, last)) :
    cursor.plainWords false 1 before keyAllowed (fuel + 1) = (before ++ word ++ more, later, last) := by
  have behind := forward_append shape
  have place : Starts ((cursor.forward word.length).forward Leaf.newLine.length).rest := by
    rw [forward_append behind]
    exact starts
  -- As it is indented, the next line begins with no mark between documents.
  have separator : (cursor.forward word.length).step.atSeparator = false :=
    atSeparator_false (by rw [step_cons behind]; rintro c ⟨⟩; decide)
  refine plainWords_more isWord shape (plainLength_gap rfl)
    (plainGap_lineFeed behind starts separator) (by simp) place ?_ rest
  rw [column_indented behind]
  decide

end Words

/-- A plain text is read back over its folds, up to and with the end of its last line. -/
theorem plainWords_spaced {found : List (List Char)} (spaced : Spaced found)
    (line : StartsLine next) {column : Nat} {cursor : Cursor} {before : List Char}
    {keyAllowed : Bool} {fuel : Nat}
    (shape : cursor.rest = Leaf.plain column found ++ '\n' :: next)
    (enough : (Leaf.plain column found).length < fuel) :
    cursor.plainWords false 1 before keyAllowed fuel =
      (before ++ found.flatten, true, cursor.forward ((Leaf.plain column found).length + 1)) := by
  -- One turn of the loop reads a word with the gap behind it, so the induction is on the words.
  induction spaced generalizing column cursor before keyAllowed fuel with
  | @last word isWord =>
    obtain ⟨fuel, rfl⟩ : ∃ less, fuel = less + 1 := ⟨fuel - 1, by omega⟩
    rw [plain_word isWord, Leaf.plain, List.append_nil] at shape ⊢
    -- The line feed leads to column zero, which ends a value at indentation one.
    have behind := forward_append shape
    have gap := @plainGap_lineFeed (cursor.forward word.length) next 0 behind line.starts
      (atSeparator_false (by rw [step_cons behind]; exact line.separator))
    rw [plainWords_stop isWord shape (plainLength_gap rfl) gap (.inr ?_), ← forward_add]
    · simp
    · rw [Nat.zero_add, ← forward_add, column_lineFeed shape]
      decide
  | @more word count rest isWord spaced ih =>
    obtain ⟨fuel, rfl⟩ : ∃ less, fuel = less + 1 := ⟨fuel - 1, by omega⟩
    have some := List.length_pos_of_ne_nil isWord.filled
    rw [plain_word isWord] at shape enough ⊢
    rw [List.append_assoc] at shape
    rw [List.length_append] at enough ⊢
    by_cases folds : List.replicate (count + 1) ' ' = [' '] ∧ Leaf.width < column + word.length
    · -- The line is folded here: one space was written as a new line, and is read as one space.
      rw [Leaf.plain, if_pos folds] at shape enough ⊢
      rw [List.append_assoc] at shape
      rw [List.length_append] at enough ⊢
      have more := @ih Leaf.indent _ [' '] true fuel (forward_append (forward_append shape)) (by omega)
      rw [plainWords_newLine isWord shape (starts_plain spaced _ _) more, folds.1]
      simp only [← forward_add, List.flatten_cons, List.append_assoc, Nat.add_assoc]
    · -- The gap was written as it is.
      rw [Leaf.plain, if_neg folds] at shape enough ⊢
      rw [List.append_assoc] at shape
      rw [List.length_append] at enough ⊢
      rw [List.length_replicate] at shape enough ⊢
      have place := forward_replicate (forward_append shape)
      have more := @ih _ _ (List.replicate (count + 1) ' ') false fuel place (by omega)
      rw [plainWords_gap isWord shape (starts_plain spaced _ _) more]
      simp only [← forward_add, List.flatten_cons, List.append_assoc, Nat.add_assoc]

end Cursor

end Issuance.Yaml
