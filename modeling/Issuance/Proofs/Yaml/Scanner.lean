import Issuance.Proofs.Yaml.Leaf

/-! A scanner goes from token to token, and reads a value that is written as a scalar. -/

namespace Issuance.Yaml

open Leaf (Word Spaced Form)

theorem ok_bind {α β : Type} (a : α) (next : α → Outcome β) : (Except.ok a >>= next) = next a := rfl

namespace Scanner

/-- A scanner at the start of a line of a mapping, or of the text, where no block is open yet. -/
def ready (opened : Bool) (cursor : Cursor) (tokens : List Token) : Scanner where
  cursor
  tokens
  indent := if opened then 0 else -1
  indents := if opened then [-1] else []

section Steps

variable {scanner : Scanner} {back : List Char}

/-- Where something begins there is no gap to pass over. -/
theorem skipGap_starts (starts : Cursor.Starts scanner.cursor.rest) (fuel : Nat) :
    scanner.skipGap (fuel + 1) = scanner := by
  have none : scanner.cursor.skip (· == ' ') = scanner.cursor :=
    Cursor.skip_none fun c member => by simp [(starts c member).2.1]
  unfold skipGap
  simp only [none, if_neg starts.peek.1, Cursor.lineBreak?_none starts.isBreak]
  rfl

theorem skipGap_space (shape : scanner.cursor.rest = ' ' :: back) (starts : Cursor.Starts back)
    (fuel : Nat) : scanner.skipGap (fuel + 1) = scanner.goTo scanner.cursor.step := by
  have starts' : Cursor.Starts scanner.cursor.step.rest := by rwa [Cursor.step_cons shape]
  have one : scanner.cursor.skip (· == ' ') = scanner.cursor.step :=
    @Cursor.skip_spaces scanner.cursor back (· == ' ') 1 rfl shape
      fun c member => beq_eq_false_iff_ne.mpr (starts c member).2.1
  unfold skipGap
  simp only [one, if_neg starts'.peek.1, Cursor.lineBreak?_none starts'.isBreak]

/-- At the end of a line the next one is gone to, where a key may start. -/
theorem skipGap_lineFeed (shape : scanner.cursor.rest = '\n' :: back) (outside : scanner.depth = 0)
    (starts : Cursor.Starts back) (fuel : Nat) : scanner.skipGap (fuel + 2) =
      { scanner with cursor := scanner.cursor.step, keyAllowed := true } := by
  have none : scanner.cursor.skip (· == ' ') = scanner.cursor :=
    Cursor.skip_none (by rw [shape]; rintro c ⟨⟩; decide)
  have other : scanner.cursor.peek ≠ some '#' := by
    rw [Cursor.peek_cons shape]
    rintro ⟨⟩
  have allowed : (scanner.keyAllowed || !scanner.inFlow) = true := by simp [inFlow, outside]
  rw [skipGap]
  simp only [none, if_neg other, Cursor.lineBreak?_lineFeed shape, allowed]
  exact skipGap_starts (by rwa [Cursor.step_cons shape]) fuel

theorem dropStaleKeys_none (none : scanner.keys = []) : scanner.dropStaleKeys = .ok scanner := by
  obtain ⟨⟩ := scanner
  subst none
  rfl

/-- Blocks that are not indented further are not ended. -/
theorem unwind_none {column : Nat} (inside : scanner.indents = [] ∨ scanner.indent ≤ column) :
    scanner.unwind column = scanner := by
  -- The outermost level is never ended, whatever the column.
  have nothing : unwindTo column scanner.indent [] scanner.indents =
      (scanner.indent, scanner.indents, []) := by
    cases shape : scanner.indents with
    | nil => rfl
    | cons outer more =>
      have least := inside.resolve_left (by simp [shape])
      rw [unwindTo, if_neg (by omega)]
  unfold unwind
  split
  · rfl
  · rw [nothing]
    simp

/-- One step: over a gap to a token, with no key to forget and no block to end. -/
theorem run_step {start next : Scanner} {c : Char}
    (gap : start.skipGap (start.cursor.rest.length + 1) = scanner)
    (keys : scanner.dropStaleKeys = .ok scanner)
    (inside : scanner.indents = [] ∨ scanner.indent ≤ scanner.cursor.column)
    (shape : scanner.cursor.rest = c :: back) (token : scanner.readToken c = .ok next) (fuel : Nat) :
    start.run (fuel + 1) = next.run fuel := by
  rw [run, gap, keys]
  simp only [ok_bind, unwind_none inside, Cursor.peek_cons shape, token]

/-- A character that may lead a mark leads none if no gap follows it. -/
theorem gapOrEnd_of_lead {c : Char} {next : Option Char}
    (lead : ("?:-".contains c && gapOrEnd next) = false) (member : c ∈ ['-', '?', ':']) :
    gapOrEnd next = false := by
  have leads : "?:-".contains c = true := by
    have all : ∀ c ∈ ['-', '?', ':'], c ∈ "?:-".toList := by decide
    rw [String.contains_char_eq, decide_eq_true (all c member)]
  rwa [leads, Bool.true_and] at lead

theorem plainStarts_bare {c : Char} {next : Option Char}
    (mark : "#,[]\x7b\x7d&*!|>'\"%@\x60".contains c = false)
    (lead : ("?:-".contains c && gapOrEnd next) = false) (solid : isGap c = false) :
    plainStarts false c next = true := by
  rw [String.contains_char_eq, decide_eq_false_iff_not] at mark
  unfold plainStarts
  -- The three that may lead a mark start a scalar only before something solid.
  by_cases member : c ∈ ['-', '?', ':']
  · have marks : ∀ c ∈ ['-', '?', ':'],
        (!false && (c == '-' || (!false && (c == '?' || c == ':')))) = true := by decide
    rw [gapOrEnd_of_lead lead member, marks c member, Bool.or_true]
  · have all : ∀ c ∈ "-?:,[]\x7b\x7d#&*!|>'\"%@\x60".toList,
        c ∈ ['-', '?', ':'] ∨ c ∈ "#,[]\x7b\x7d&*!|>'\"%@\x60".toList := by decide
    have free : "-?:,[]\x7b\x7d#&*!|>'\"%@\x60".contains c = false := by
      rw [String.contains_char_eq, decide_eq_false_iff_not]
      exact fun place => (all c place).elim member mark
    rw [free, solid]
    rfl

/-- What begins like no mark is a plain scalar. -/
theorem readToken_bare {c : Char} (shape : scanner.cursor.rest = c :: back)
    (outside : scanner.depth = 0) (mark : "#,[]\x7b\x7d&*!|>'\"%@\x60".contains c = false)
    (lead : ("?:-".contains c && gapOrEnd back.head?) = false) (solid : isGap c = false)
    (line : 0 < scanner.cursor.column ∨ c ≠ '-' ∧ c ≠ '.') :
    scanner.readToken c = scanner.plainScalar := by
  have separator : ¬(scanner.cursor.column = 0 ∧ scanner.cursor.atSeparator = true) := by
    rintro ⟨first, found⟩
    rcases line with behind | other
    · omega
    · rw [Cursor.atSeparator_false (by rw [shape]; rintro d ⟨⟩; exact other)] at found
      cases found
  have next : scanner.cursor.ahead 1 = back.head? := by
    rw [Cursor.ahead, shape, List.getElem?_cons_succ, List.head?_eq_getElem?]
  have flow : scanner.inFlow = false := by simp [inFlow, outside]
  have starts := plainStarts_bare mark lead solid
  have apart : ∀ m ∈ "#,[]\x7b\x7d&*!|>'\"%@\x60".toList, c ≠ m := by
    rw [String.contains_char_eq, decide_eq_false_iff_not] at mark
    exact fun m member same => mark (same ▸ member)
  have no : ∀ m ∈ ['-', '?', ':'], ¬(c = m ∧ gapOrEnd back.head? = true) := by
    rintro m member ⟨rfl, gap⟩
    rw [gapOrEnd_of_lead lead member] at gap
    cases gap
  unfold readToken
  simp only [next, flow, Bool.false_eq_true, false_or]
  -- The marks are gone through in the order in which they are looked for.
  rw [if_neg (fun percent => apart '%' (by decide) percent.1), if_neg separator,
    if_neg (apart '[' (by decide)), if_neg (apart '{' (by decide)), if_neg (apart ']' (by decide)),
    if_neg (apart '}' (by decide)), if_neg (apart ',' (by decide)), if_neg (no '-' (by decide)),
    if_neg (no '?' (by decide)), if_neg (no ':' (by decide)), if_neg (apart '*' (by decide)),
    if_neg (apart '&' (by decide)), if_neg (apart '!' (by decide)),
    if_neg (fun bar => apart '|' (by decide) bar.1),
    if_neg (fun angle => apart '>' (by decide) angle.1), if_neg (apart '\'' (by decide)),
    if_neg (apart '"' (by decide)), if_pos starts]

/-- A colon before a gap begins a value. -/
theorem readToken_colon (shape : scanner.cursor.rest = ':' :: ' ' :: back) :
    scanner.readToken ':' = scanner.startValue := by
  have separator : scanner.cursor.atSeparator = false := by
    refine Cursor.atSeparator_false ?_
    rw [shape]
    rintro c ⟨⟩
    decide
  have next : scanner.cursor.ahead 1 = some ' ' := by rw [Cursor.ahead, shape]; rfl
  have gap : gapOrEnd (some ' ') = true := rfl
  unfold readToken
  simp [separator, next, gap]

theorem noteKey_none (closed : scanner.keyAllowed = false) : scanner.noteKey = .ok scanner := by
  unfold noteKey
  rw [closed]
  rfl

/-- A plain scalar is one token, whether or not it is noted as a key. -/
theorem plainScalar_words {noted : Scanner} {text : List Char} {later : Bool} {last : Cursor}
    (note : scanner.noteKey = .ok noted) (outside : noted.depth = 0)
    (words : noted.cursor.plainWords false (noted.indent + 1) [] false
      (noted.cursor.rest.length + 1) = (text, later, last)) :
    scanner.plainScalar = .ok { noted with
      cursor := last
      tokens := noted.tokens ++ [.scalar (String.ofList text) true]
      keyAllowed := later } := by
  have flow : noted.inFlow = false := by simp [inFlow, outside]
  unfold plainScalar
  simp only [note, bind, Except.bind, flow, words]
  rfl

/-- A quote begins a text between quotes. -/
theorem readToken_quote (double : Bool) (shape : scanner.cursor.rest = Cursor.quoteMark double :: back) :
    scanner.readToken (Cursor.quoteMark double) = scanner.keyLike (quotedScalar double) := by
  have separator : scanner.cursor.atSeparator = false := by
    refine Cursor.atSeparator_false ?_
    rw [shape]
    rintro c ⟨⟩
    cases double <;> decide
  unfold readToken
  cases double <;> simp [separator, Cursor.quoteMark]

end Steps

section Values

variable {scanner : Scanner} {next : List Char} {leaf : Leaf} {written : List Char}

/-- A scalar comes next, as long as given, and behind it the start of a line, where a key may stand. -/
def ReadsScalar (scanner : Scanner) (text : String) (plain : Bool) (length : Nat) : Prop :=
  ∃ c more after, scanner.cursor.rest = c :: more ∧ scanner.readToken c = .ok after ∧
    after.skipGap (after.cursor.rest.length + 1) =
      { scanner with
        cursor := scanner.cursor.forward (length + 1)
        tokens := scanner.tokens ++ [.scalar text plain]
        keyAllowed := true }

/-- A scanner behind the colon of an entry, and the space behind that, where its value comes next. -/
structure AtValue (scanner : Scanner) : Prop where
  closed : scanner.keyAllowed = false
  outside : scanner.depth = 0
  level : scanner.indent = 0
  inside : 0 < scanner.cursor.column

/-- A text between quotes is one token, behind which the next line is gone to. -/
theorem reads_quoted {double : Bool} {body cs : List Char} (atValue : AtValue scanner)
    (line : Cursor.StartsLine next)
    (shape : scanner.cursor.rest =
      (Cursor.quoteMark double :: body ++ [Cursor.quoteMark double]) ++ '\n' :: next)
    (quotes : Cursor.Quotes double scanner.cursor.step cs
      (scanner.cursor.step.forward (body.length + 1))) :
    scanner.ReadsScalar (String.ofList cs) false
      (Cursor.quoteMark double :: body ++ [Cursor.quoteMark double]).length := by
  have fuel : scanner.cursor.step.rest.length < scanner.cursor.rest.length + 1 := by
    rw [Cursor.step_rest, List.length_tail]
    omega
  have length : (Cursor.quoteMark double :: body ++ [Cursor.quoteMark double]).length =
      body.length + 1 + 1 := by
    rw [List.length_append, List.length_cons, List.length_singleton]
  have behind : (scanner.cursor.step.forward (body.length + 1)).rest = '\n' :: next := by
    have := Cursor.forward_append shape
    rwa [length] at this
  let after : Scanner := { scanner with
    cursor := scanner.cursor.step.forward (body.length + 1)
    tokens := scanner.tokens ++ [.scalar (String.ofList cs) false]
    keyAllowed := false }
  refine ⟨_, _, after, shape, ?_, ?_⟩
  · -- A value is not noted as a key, for behind a colon none may stand.
    rw [readToken_quote double shape, keyLike, noteKey_none atValue.closed]
    change quotedScalar double scanner.cursor >>= _ = _
    rw [quotedScalar, quotes _ fuel]
    rfl
  · have enough : (scanner.cursor.step.forward (body.length + 1)).rest.length + 1 =
        next.length + 2 := by rw [behind]; rfl
    have place : (scanner.cursor.step.forward (body.length + 1)).step =
        scanner.cursor.forward (body.length + 1 + 1 + 1) := Cursor.forward_step _ _
    change after.skipGap ((scanner.cursor.step.forward (body.length + 1)).rest.length + 1) = _
    rw [enough, @skipGap_lineFeed after _ behind atValue.outside line.starts, length]
    simp only [after, place]

/-- The first character of a plain text that begins like no mark, and what it is followed by. -/
theorem exists_bare {found : List (List Char)} (spaced : Spaced found)
    (unmarked : Leaf.startsMarked found.flatten = false) (column : Nat) (back : List Char) :
    ∃ c more, Leaf.plain column found ++ back = c :: more ∧
      Printed c ∧ c ≠ ' ' ∧ "#,[]\x7b\x7d&*!|>'\"%@\x60".contains c = false ∧
        ("?:-".contains c && gapOrEnd more.head?) = false := by
  -- Folds change what is behind the first word, so that what follows a lone character is looked at.
  have first : ∀ {word : List Char} {rest : List (List Char)}, Word word →
      gapOrEnd rest.flatten.head? = true → Leaf.startsMarked (word ++ rest.flatten) = false →
      ∃ c more, Leaf.plain column (word :: rest) ++ back = c :: more ∧
        Printed c ∧ c ≠ ' ' ∧ "#,[]\x7b\x7d&*!|>'\"%@\x60".contains c = false ∧
          ("?:-".contains c && gapOrEnd more.head?) = false := by
    intro word rest isWord behind unmarked
    obtain ⟨c, word, rfl⟩ := List.exists_cons_of_ne_nil isWord.filled
    obtain ⟨printed, space⟩ := isWord.printed c (by simp)
    rw [List.cons_append, Leaf.startsMarked, Bool.or_eq_false_iff, Bool.or_eq_false_iff,
      Bool.or_eq_false_iff] at unmarked
    obtain ⟨⟨⟨mark, lead⟩, -⟩, -⟩ := unmarked
    rw [Leaf.plain_word isWord]
    refine ⟨c, _, rfl, printed, space, mark, ?_⟩
    cases word with
    | nil =>
      -- A gap follows the only character of the word, and so it is none that begins a mark.
      rw [List.nil_append, behind, Bool.and_true] at lead
      rw [lead, Bool.false_and]
    | cons d word => exact lead
  cases spaced with
  | last isWord => exact first isWord rfl unmarked
  | more count isWord spaced => exact first isWord rfl unmarked

/-- A plain text is one token, up to the start of the next line. -/
theorem reads_plain {found : List (List Char)} {column : Nat} (spaced : Spaced found)
    (unmarked : Leaf.startsMarked found.flatten = false) (atValue : AtValue scanner)
    (line : Cursor.StartsLine next)
    (shape : scanner.cursor.rest = Leaf.plain column found ++ '\n' :: next) :
    scanner.ReadsScalar (String.ofList found.flatten) true (Leaf.plain column found).length := by
  obtain ⟨c, more, split, printed, space, mark, lead⟩ :=
    exists_bare spaced unmarked column ('\n' :: next)
  have enough : (Leaf.plain column found).length < scanner.cursor.rest.length + 1 := by
    rw [shape, List.length_append]
    omega
  have words : scanner.cursor.plainWords false (scanner.indent + 1) [] false
      (scanner.cursor.rest.length + 1) =
        ([] ++ found.flatten, true, scanner.cursor.forward ((Leaf.plain column found).length + 1)) := by
    rw [atValue.level]
    exact Cursor.plainWords_spaced spaced line shape enough
  have token := plainScalar_words (noteKey_none atValue.closed) atValue.outside words
  rw [← readToken_bare (shape.trans split) atValue.outside mark lead (printed.isGap space)
    (.inl atValue.inside)] at token
  refine ⟨c, more, _, shape.trans split, token, ?_⟩
  -- The end of the line has been passed over in search of another word.
  have behind : (scanner.cursor.forward ((Leaf.plain column found).length + 1)).rest = next := by
    rw [← Cursor.forward_step, Cursor.step_cons (Cursor.forward_append shape)]
  exact skipGap_starts (by rw [behind]; exact line.starts) _

/-- A written value is one token, from which its data is told, up to the start of the next line. -/
theorem reads_form (form : Form leaf written) (atValue : AtValue scanner)
    (line : Cursor.StartsLine next)
    (shape : scanner.cursor.rest = written ++ '\n' :: next) :
    ∃ text plain, Node.scalarDatum (Assembling.scalarTag none plain text) text = .ok leaf.datum ∧
      scanner.ReadsScalar text plain written.length := by
  cases form with
  | plain spaced unmarked datum =>
    exact ⟨_, true, datum, reads_plain spaced unmarked atValue line shape⟩
  | @single column s isText simple =>
    obtain ⟨inked, before, behind⟩ := Leaf.inked_of_mayBeSingle simple
    have inner : scanner.cursor.step.rest =
        Leaf.single column true (Leaf.runs s.toList) ++ '\'' :: '\n' :: next := by
      rw [Cursor.step_cons shape]
      simp
    have quotes := Leaf.quotes_single (Leaf.alternating_runs s.toList)
      (by rwa [Leaf.flatten_runs]) (by rwa [Leaf.flatten_runs]) (by rwa [Leaf.flatten_runs])
      (by simp) inner
    rw [Leaf.flatten_runs] at quotes
    have reads := @reads_quoted scanner next false _ _ atValue line shape quotes
    rw [String.ofList_toList] at reads
    exact ⟨s, false, by rw [isText]; rfl, reads⟩
  | @double s body isText doubled =>
    have inner : scanner.cursor.step.rest = body ++ '"' :: '\n' :: next := by
      rw [Cursor.step_cons shape]
      simp
    have quotes := doubled.quotes (by simp) inner
    have reads := @reads_quoted scanner next true _ _ atValue line shape quotes
    rw [String.ofList_toList] at reads
    exact ⟨s, false, by rw [isText]; rfl, reads⟩

theorem starts_form (form : Form leaf written) (back : List Char) :
    Cursor.Starts (written ++ back) := by
  cases form with
  | plain spaced _ _ => exact Cursor.starts_plain spaced _ back
  | single => rintro c ⟨⟩; decide
  | double => rintro c ⟨⟩; decide

end Values

end Scanner

end Issuance.Yaml
