import Issuance.Proofs.Yaml.Scanner

/-! The tokens of a mapping that is written, entry by entry. -/

namespace Issuance.Yaml

open Leaf (Word Form)

/-- A key that is written plainly, and read as a text. -/
structure IsKey (key : String) : Prop where
  word : Word key.toList
  letter : ∀ c ∈ key.toList.head?, c.isAlpha = true
  short : key.length ≤ 1024
  tag : Tag.ofPlain key = .text

namespace Scanner

section Entries

variable {opened : Bool} {cursor : Cursor} {tokens : List Token} {key : String} {back : List Char}

/-- A scanner behind the key of an entry, which a colon may still make one. -/
def behindKey (opened : Bool) (cursor : Cursor) (tokens : List Token) (key : String) : Scanner :=
  { ready opened (cursor.forward key.toList.length) (tokens ++ [.scalar key true]) with
    keyAllowed := false
    keys := [(0, {
      position := tokens.length
      required := (if opened then 0 else -1) == (cursor.column : Int)
      index := cursor.index
      line := cursor.line
      column := cursor.column })] }

/-- A scanner behind the colon of an entry. -/
def behindColon (opened : Bool) (cursor : Cursor) (tokens : List Token) (key : String) : Scanner :=
  { ready true cursor (tokens ++
      ((if opened then [] else [.blockMappingStart]) ++ [.key, .scalar key true, .value])) with
    keyAllowed := false }

/-- No letter is one of several marks. -/
theorem contains_letter {marks : String} {c : Char} (letter : c.isAlpha = true)
    (others : ∀ mark ∈ marks.toList, mark.isAlpha = false) : marks.contains c = false := by
  rw [String.contains_char_eq, decide_eq_false_iff_not]
  intro member
  rw [others c member] at letter
  cases letter

theorem starts_key (isKey : IsKey key) : Cursor.StartsLine (key.toList ++ back) := by
  have others : ∀ mark ∈ [' ', '#', '-', '.'], mark.isAlpha = false := by decide
  have apart : ∀ c ∈ key.toList.head?, ∀ mark ∈ [' ', '#', '-', '.'], c ≠ mark := by
    rintro c member mark place rfl
    have letter := isKey.letter c member
    rw [others c place] at letter
    cases letter
  constructor
  · rw [Cursor.Starts, List.head?_append_of_ne_nil _ isKey.word.filled]
    exact fun c member => ⟨(isKey.word.printed c (List.mem_of_mem_head? member)).1,
      apart c member ' ' (by decide), apart c member '#' (by decide)⟩
  · rw [List.head?_append_of_ne_nil _ isKey.word.filled]
    exact fun c member => ⟨apart c member '-' (by decide), apart c member '.' (by decide)⟩

/-- The key of an entry is a plain scalar, which is noted. -/
theorem run_key (isKey : IsKey key) (shape : cursor.rest = key.toList ++ ':' :: ' ' :: back)
    (fuel : Nat) :
    (ready opened cursor tokens).run (fuel + 1) = (behindKey opened cursor tokens key).run fuel := by
  have note : (ready opened cursor tokens).noteKey = .ok { ready opened cursor tokens with
      keys := (behindKey opened cursor tokens key).keys } := rfl
  have colon : Cursor.Starts (':' :: ' ' :: back) := by
    rintro c ⟨⟩
    decide
  -- The key ends at its colon, as a gap follows that, and no gap is before it.
  have words : cursor.plainWords false ((ready opened cursor tokens).indent + 1) [] false
      (cursor.rest.length + 1) = (key.toList, false, cursor.forward key.toList.length) := by
    have behind := Cursor.forward_append shape
    have gap := @Cursor.plainGap_spaces (cursor.forward key.toList.length) _ 0 behind colon
    exact Cursor.plainWords_stop isKey.word shape rfl gap (.inl rfl)
  have opens := @starts_key key (':' :: ' ' :: back) isKey
  obtain ⟨c, rest, split⟩ := List.exists_cons_of_ne_nil isKey.word.filled
  have letter := isKey.letter c (by rw [split]; rfl)
  have first : cursor.rest = c :: (rest ++ ':' :: ' ' :: back) := by rw [shape, split]; rfl
  have lead : ("?:-".contains c && gapOrEnd (rest ++ ':' :: ' ' :: back).head?) = false := by
    rw [contains_letter letter (by decide), Bool.false_and]
  have token : (ready opened cursor tokens).readToken c =
      .ok (behindKey opened cursor tokens key) := by
    rw [readToken_bare first rfl (contains_letter letter (by decide)) lead
        ((opens.starts c (by rw [split]; rfl)).1.isGap (opens.starts c (by rw [split]; rfl)).2.1)
        (.inr (opens.separator c (by rw [split]; rfl))), plainScalar_words note rfl words,
      String.ofList_toList]
    rfl
  refine run_step (skipGap_starts ?_ _) (dropStaleKeys_none rfl) ?_ first token fuel
  · rw [show (ready opened cursor tokens).cursor.rest = _ from shape]
    exact opens.starts
  · cases opened
    · exact .inl rfl
    · exact .inr (Int.natCast_nonneg _)

/-- The colon of an entry makes what was noted its key, and opens a block where none is open yet. -/
theorem run_colon (isKey : IsKey key) (shape : cursor.rest = key.toList ++ ':' :: ' ' :: back)
    (line : cursor.column = 0) (fuel : Nat) :
    (behindKey opened cursor tokens key).run (fuel + 1) =
      (behindColon opened (cursor.forward (key.toList.length + 1)) tokens key).run fuel := by
  have behind : (cursor.forward key.toList.length).rest = ':' :: ' ' :: back :=
    Cursor.forward_append shape
  have place := Cursor.forward_printed shape fun c member => (isKey.word.printed c member).1
  have keys : (behindKey opened cursor tokens key).dropStaleKeys =
      .ok (behindKey opened cursor tokens key) := by
    -- The key is on the line of the colon, and not too far before it.
    have short : key.toList.length ≤ 1024 := isKey.short
    have line : (behindKey opened cursor tokens key).cursor.line = cursor.line := by
      rw [show (behindKey opened cursor tokens key).cursor = _ from place]
    have index : (behindKey opened cursor tokens key).cursor.index =
        cursor.index + key.toList.length := by
      rw [show (behindKey opened cursor tokens key).cursor = _ from place]
    unfold dropStaleKeys
    rw [line, index]
    simp [behindKey, short]
  -- The tokens of the key, and of the block if it is the first one, are put before what was noted.
  have token : (behindKey opened cursor tokens key).readToken ':' =
      .ok (behindColon opened (cursor.forward (key.toList.length + 1)) tokens key) := by
    rw [@readToken_colon (behindKey opened cursor tokens key) _ behind]
    have taken : (tokens ++ [Token.scalar key true]).take tokens.length = tokens := List.take_left
    have left : (tokens ++ [Token.scalar key true]).drop tokens.length = [.scalar key true] :=
      List.drop_left
    have taken' : (tokens ++ [Token.key, Token.scalar key true]).take tokens.length = tokens :=
      List.take_left
    have left' : (tokens ++ [Token.key, Token.scalar key true]).drop tokens.length =
        [.key, .scalar key true] := List.drop_left
    cases opened <;>
      simp [startValue, behindKey, behindColon, ready, inFlow, startBlock, line, taken, left, taken',
        left', forward, goTo, push, ← Cursor.forward_add, pure, Except.pure]
  refine run_step (skipGap_starts ?_ _) keys ?_ behind token fuel
  · rw [show (behindKey opened cursor tokens key).cursor.rest = _ from behind]
    rintro c ⟨⟩
    decide
  · cases opened
    · exact .inl rfl
    · exact .inr (Int.natCast_nonneg _)

/-- What is behind a gap at the end of a line goes on where the next line starts. -/
theorem run_ready {scanner : Scanner}
    (gap : scanner.skipGap (scanner.cursor.rest.length + 1) = ready opened cursor tokens)
    (starts : Cursor.Starts cursor.rest) (fuel : Nat) :
    scanner.run fuel = (ready opened cursor tokens).run fuel := by
  cases fuel with
  | zero => rfl
  | succ fuel => rw [run, run, gap, @skipGap_starts (ready opened cursor tokens) starts]

/-- Behind the key and the colon of an entry a space comes next, and then the value. -/
theorem rest_colon (shape : cursor.rest = key.toList ++ ':' :: ' ' :: back) :
    (cursor.forward (key.toList.length + 1)).rest = ' ' :: back := by
  rw [← Cursor.forward_step, Cursor.step_cons (Cursor.forward_append shape)]

theorem column_value (isKey : IsKey key) (shape : cursor.rest = key.toList ++ ':' :: ' ' :: back) :
    0 < (cursor.forward (key.toList.length + 1 + 1)).column := by
  have split : cursor.rest = (key.toList ++ [':', ' ']) ++ back := by
    rw [shape, List.append_assoc]
    rfl
  have printed : ∀ c ∈ key.toList ++ [':', ' '], Printed c :=
    List.forall_mem_append.mpr ⟨fun c member => (isKey.word.printed c member).1, by decide⟩
  have place := Cursor.forward_printed split printed
  rw [List.length_append, List.length_cons, List.length_singleton, ← Nat.add_assoc] at place
  rw [place]
  exact Nat.succ_pos _

end Entries

end Scanner

/-- An entry as it is scanned: its key, and its value, which is plain or in quotes. -/
structure Scanned where
  key : String
  text : String
  plain : Bool

namespace Scanned

/-- The tokens of an entry. -/
def tokens (found : Scanned) : List Token :=
  [.key, .scalar found.key true, .value, .scalar found.text found.plain]

/-- Whether an entry that is scanned has a key, and the data of a value. -/
def Says (found : Scanned) (key : String) (leaf : Leaf) : Prop :=
  found.key = key ∧
    Node.scalarDatum (Assembling.scalarTag none found.plain found.text) found.text = .ok leaf.datum

end Scanned

/-- The text of an entry. -/
def entryText (entry : String × Leaf) : List Char :=
  entry.1.toList ++ ':' :: ' ' :: entry.2.written (entry.1.length + 1) ++ ['\n']

namespace Scanner

section Steps

variable {opened : Bool} {cursor : Cursor} {tokens : List Token}

/-- The tokens in front of the first entry. -/
def opening (opened : Bool) : List Token := if opened then [] else [.blockMappingStart]

/-- An entry that is written is read in three steps: its key, the colon, and its value. -/
theorem run_entry {entry : String × Leaf} {next : List Char} (isKey : IsKey entry.1)
    (writable : entry.2.datum.isWritable = true) (first : cursor.column = 0)
    (line : Cursor.StartsLine next) (shape : cursor.rest = entryText entry ++ next) :
    ∃ found : Scanned, found.Says entry.1 entry.2 ∧
      ∀ fuel, (ready opened cursor tokens).run (fuel + 3) =
        (ready true (cursor.forward (entryText entry).length)
          (tokens ++ (opening opened ++ found.tokens))).run fuel := by
  obtain ⟨key, leaf⟩ := entry
  have form := Leaf.form_written writable (key.length + 1)
  rw [entryText] at shape ⊢
  dsimp only at isKey form shape ⊢
  generalize leaf.written (key.length + 1) = written at form shape ⊢
  have shape' : cursor.rest = key.toList ++ ':' :: ' ' :: (written ++ '\n' :: next) := by
    rw [shape]
    simp
  let behind := behindColon opened (cursor.forward (key.toList.length + 1)) tokens key
  let start := behind.goTo behind.cursor.step
  have gap : behind.cursor.rest = ' ' :: (written ++ '\n' :: next) := rest_colon shape'
  have place : start.cursor = cursor.forward (key.toList.length + 1 + 1) := Cursor.forward_step _ _
  have atValue : AtValue start :=
    ⟨rfl, rfl, rfl, by rw [place]; exact column_value isKey shape'⟩
  -- What the written value is does not matter any more, but for the one token it is read as.
  obtain ⟨text, plain, datum, c, more, after, begins, token, onward⟩ :=
    reads_form form atValue line (Cursor.step_cons gap)
  refine ⟨⟨key, text, plain⟩, ⟨rfl, datum⟩, fun fuel => ?_⟩
  rw [run_key isKey shape' (fuel + 2), run_colon isKey shape' first (fuel + 1),
    @run_step start more behind after c (skipGap_space gap (starts_form form _) _)
      (dropStaleKeys_none rfl) (.inr (Int.natCast_nonneg _)) begins token fuel]
  have last : start.cursor.forward (written.length + 1) =
      cursor.forward (key.toList ++ ':' :: ' ' :: written ++ ['\n']).length := by
    rw [place, ← Cursor.forward_add]
    congr 1
    simp
    omega
  have told : start.tokens ++ [.scalar text plain] =
      tokens ++ (opening opened ++ Scanned.tokens ⟨key, text, plain⟩) := by
    simp [start, behind, behindColon, ready, goTo, opening, Scanned.tokens]
  refine run_ready (onward.trans ?_) ?_ fuel
  · rw [last, told]
    rfl
  · rw [Cursor.forward_append shape]
    exact line.starts

/-- Behind an entry a line starts. -/
theorem column_entry {entry : String × Leaf} {next : List Char}
    (shape : cursor.rest = entryText entry ++ next) :
    (cursor.forward (entryText entry).length).column = 0 := by
  rw [entryText, List.append_assoc, List.singleton_append] at shape
  rw [entryText, List.length_append]
  exact Cursor.column_lineFeed shape

/-- At the end of the text the block that the entries are in is ended. -/
theorem run_end (done : cursor.rest = []) (fuel : Nat) :
    (ready true cursor tokens).run (fuel + 1) = .ok (tokens ++ [.blockEnd]) := by
  have starts : Cursor.Starts (ready true cursor tokens).cursor.rest := by
    rw [show (ready true cursor tokens).cursor.rest = [] from done]
    exact nofun
  have last : (ready true cursor tokens).cursor.peek = none := by
    rw [Cursor.peek, show (ready true cursor tokens).cursor.rest = [] from done]
    rfl
  have kept : (ready true cursor tokens).unwind (ready true cursor tokens).cursor.column =
      ready true cursor tokens := unwind_none (.inr (Int.natCast_nonneg _))
  rw [run, skipGap_starts starts, dropStaleKeys_none rfl]
  simp only [ok_bind, kept, last]
  rfl

end Steps

end Scanner

/-- A mapping that can be written, and is read back key by key. -/
structure Writable (entries : List (String × Leaf)) : Prop where
  keys : ∀ entry ∈ entries, IsKey entry.1
  values : ∀ entry ∈ entries, entry.2.datum.isWritable = true

/-- Whether what is scanned says the entries of a mapping, one by one. -/
def Told (entries : List (String × Leaf)) (told : List Scanned) : Prop :=
  List.Forall₂ (fun entry found => found.Says entry.1 entry.2) entries told

namespace Scanner

variable {entries : List (String × Leaf)} {cursor : Cursor} {tokens : List Token}

theorem starts_entries (writable : Writable entries) :
    Cursor.StartsLine (entries.flatMap entryText) := by
  cases entries with
  | nil => exact ⟨nofun, nofun⟩
  | cons entry entries =>
    have key := writable.keys entry (by simp)
    rw [List.flatMap_cons, entryText, List.append_assoc, List.append_assoc]
    exact starts_key key

/-- Entries that are written are read one after the other, the first of them opening a block. -/
theorem run_entries {opened : Bool} (writable : Writable entries)
    (some : opened = true ∨ entries ≠ []) (first : cursor.column = 0)
    (shape : cursor.rest = entries.flatMap entryText) :
    ∃ told, Told entries told ∧ ∀ fuel,
      (ready opened cursor tokens).run (fuel + 1 + 3 * entries.length) =
        .ok (tokens ++ (opening opened ++ (told.flatMap Scanned.tokens ++ [.blockEnd]))) := by
  -- Each entry leaves the scanner ready for the next one, with the block open.
  induction entries generalizing opened cursor tokens with
  | nil =>
    obtain rfl := some.resolve_right (absurd rfl)
    exact ⟨[], .nil, fun fuel => run_end shape fuel⟩
  | cons entry entries ih =>
    obtain ⟨key, keys⟩ := List.forall_mem_cons.mp writable.keys
    obtain ⟨value, values⟩ := List.forall_mem_cons.mp writable.values
    have rest : Writable entries := ⟨keys, values⟩
    rw [List.flatMap_cons] at shape
    obtain ⟨found, data, runs⟩ := @run_entry opened cursor tokens entry _ key value first
      (starts_entries rest) shape
    obtain ⟨told, others, more⟩ := @ih _ (tokens ++ (opening opened ++ found.tokens)) true rest
      (.inl rfl) (column_entry shape) (Cursor.forward_append shape)
    refine ⟨found :: told, .cons data others, fun fuel => ?_⟩
    have fuel' : fuel + 1 + 3 * (entry :: entries).length = fuel + 1 + 3 * entries.length + 3 := by
      rw [List.length_cons]
      omega
    rw [fuel', runs]
    refine (more fuel).trans ?_
    -- The block is open now, and no entry opens another one.
    simp only [opening, List.flatMap_cons, List.append_assoc, if_true, List.nil_append]

theorem length_entries (entries : List (String × Leaf)) :
    3 * entries.length ≤ (entries.flatMap entryText).length := by
  induction entries with
  | nil => exact Nat.le_refl 0
  | cons entry entries ih =>
    simp only [List.flatMap_cons, List.length_append, List.length_cons, entryText, List.length_nil]
    omega

theorem inked_entries (writable : Writable entries) : ∀ c ∈ entries.flatMap entryText, Inked c := by
  intro c member
  obtain ⟨entry, place, member⟩ := List.mem_flatMap.mp member
  have key := (writable.keys entry place).word.printed
  have value := (Leaf.form_written (writable.values entry place) (entry.1.length + 1)).inked
  have all : ∀ c ∈ entryText entry, Inked c :=
    List.forall_mem_append.mpr ⟨List.forall_mem_append.mpr ⟨fun c member => .inl (key c member).1,
      List.forall_mem_cons.mpr ⟨by decide, List.forall_mem_cons.mpr ⟨by decide, value⟩⟩⟩,
      List.forall_mem_singleton.mpr (by decide)⟩
  exact all c member

theorem isAllowed_of_inked {c : Char} (inked : Inked c) : isAllowed c = true := by
  rcases inked with printed | rfl
  · simp [isAllowed, printed.1, printed.2]
  · decide

/-- The tokens of a mapping that is written: a block, and in it each key with its value. -/
theorem tokens_entries (writable : Writable entries) (some : entries ≠ []) :
    ∃ told, Told entries told ∧ Yaml.tokens (entries.flatMap entryText) =
      .ok (.blockMappingStart :: (told.flatMap Scanned.tokens ++ [.blockEnd])) := by
  have inked := inked_entries writable
  have allowed : (entries.flatMap entryText).all isAllowed = true :=
    List.all_eq_true.mpr fun c member => isAllowed_of_inked (inked c member)
  have mark : Cursor.peek { rest := entries.flatMap entryText } ≠ Option.some '\uFEFF' :=
    fun first => absurd (inked _ (List.mem_of_mem_head? first)) (by decide)
  obtain ⟨told, found, runs⟩ := @run_entries entries { rest := entries.flatMap entryText } [] false
    writable (.inr some) rfl rfl
  -- Each of the three steps of an entry passes over a character at least.
  obtain ⟨spare, length⟩ := Nat.exists_eq_add_of_le (length_entries entries)
  refine ⟨told, found, ?_⟩
  unfold Yaml.tokens
  simp only [allowed, Bool.not_true, Bool.false_eq_true, if_false, if_neg mark]
  rw [length, show 3 * entries.length + spare + 1 = spare + 1 + 3 * entries.length by omega]
  exact runs spare

end Scanner

end Issuance.Yaml
