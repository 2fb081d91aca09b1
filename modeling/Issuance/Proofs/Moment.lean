import Issuance.Proofs.Numeral
import Issuance.Schema.Check

/-! Moments that are written for the wire are read back as they were. -/

namespace Issuance.Moment

/-- A number that fits its width is written by as many digits as that. -/
theorem length_padded {width value : Nat} (some : 0 < width) (fits : value < 10 ^ width) :
    (padded width value).length = width := by
  have short := (Nat.length_toDigits_le_iff (by decide : 1 < 10) some).mpr fits
  simp only [padded, List.length_append, List.length_replicate]
  omega

theorem isDigit_padded {width value : Nat} {c : Char} (member : c ∈ padded width value) :
    c.isDigit = true := by
  rcases List.mem_append.mp member with zero | digit
  · rw [List.eq_of_mem_replicate zero]
    rfl
  · exact Numeral.isDigit_toDigits digit

theorem value_padded (width value : Nat) : Numeral.value (padded width value) = value := by
  simp only [padded]
  rw [Numeral.value_replicate_append, Numeral.value_toDigits]

/-- A number of a fixed width is read back, whatever stands behind it. -/
theorem digits?_padded {width value : Nat} (some : 0 < width) (fits : value < 10 ^ width)
    (rest : List Char) : digits? width (padded width value ++ rest) = .some (value, rest) := by
  have length := length_padded some fits
  have taken : (padded width value ++ rest).take width = padded width value :=
    List.take_left' length
  have left : (padded width value ++ rest).drop width = rest := List.drop_left' length
  have all : (padded width value).all Char.isDigit = true :=
    List.all_eq_true.mpr fun c member => isDigit_padded member
  unfold digits?
  simp only [taken, left, length, all, value_padded, and_self, if_true]

theorem mark?_cons (mark : Char) (rest : List Char) : mark? mark (mark :: rest) = some rest := by
  simp [mark?]

/-- Nothing that may stand behind the seconds goes on with a digit. -/
def Ends (rest : List Char) : Prop :=
  ∀ c ∈ rest.head?, c.isDigit = false ∧ c ≠ '.' ∧ c ≠ ','

/-- The date of a moment is read back, with the rest of its text behind it. -/
theorem date?_dateText {m : Moment} (valid : m.Valid) (rest : List Char) :
    date? (m.dateText ++ rest) = some ({ year := m.year, month := m.month, day := m.day }, rest) := by
  obtain ⟨_, year, _, month, first, last, _⟩ := valid
  -- Two digits are enough for any day there is.
  have most : daysInMonth m.year m.month ≤ 31 := by
    unfold daysInMonth
    split <;> first | omega | (split <;> omega)
  simp only [date?, dateText, List.append_assoc, List.cons_append,
    digits?_padded (by decide : 0 < 4) (by omega : m.year < 10 ^ 4),
    digits?_padded (by decide : 0 < 2) (by omega : m.month < 10 ^ 2),
    digits?_padded (by decide : 0 < 2) (by omega : m.day < 10 ^ 2),
    mark?_cons, Option.bind_eq_bind, Option.bind_some]
  rw [if_pos ⟨first, last⟩]
  rfl

/-- Seconds and microseconds are read back; without microseconds there is no fraction. -/
theorem seconds?_written {second microsecond : Nat} (whole : second < 60)
    (part : microsecond < 1000000) {rest : List Char} (ends : Ends rest) :
    seconds? (':' :: (padded 2 second ++ ((if microsecond = 0 then [] else
      '.' :: padded 6 microsecond) ++ rest))) = some (second, microsecond, rest) := by
  simp only [seconds?, digits?_padded (by decide : 0 < 2) (by omega : second < 10 ^ 2),
    Option.bind_eq_bind, Option.bind_some]
  rw [if_neg (by omega)]
  by_cases none : microsecond = 0
  · rw [if_pos none, none, List.nil_append]
    -- What stands behind is the end, or it is no fraction.
    cases rest with
    | nil => rfl
    | cons c rest =>
      obtain ⟨_, point, comma⟩ := ends c rfl
      simp only [point, comma, or_self, if_false]
      rfl
  · rw [if_neg none]
    have length := length_padded (by decide : 0 < 6) (by omega : microsecond < 10 ^ 6)
    have digits : Numeral.digits (padded 6 microsecond ++ rest) = (padded 6 microsecond, rest) :=
      Numeral.digits_append (fun c member => isDigit_padded member)
        (fun c member => (ends c member).1)
    have cut : (padded 6 microsecond ++ List.replicate 6 '0').take 6 = padded 6 microsecond :=
      List.take_left' length
    have filled : padded 6 microsecond ≠ [] := by
      intro empty
      rw [empty] at length
      cases length
    simp only [List.cons_append, true_or, if_true, fraction?, digits]
    cases shape : padded 6 microsecond with
    | nil => exact absurd shape filled
    | cons first others =>
      simp only [← shape, cut, value_padded, Option.bind_some]
      rfl

/-- The minutes of an offset are read back behind its sign. -/
theorem offsetMinutes?_written {minutes : Nat} (near : minutes < 1440) :
    offsetMinutes? (padded 2 (minutes / 60) ++ ':' :: padded 2 (minutes % 60)) =
      some (minutes : Int) := by
  have last := digits?_padded (by decide : 0 < 2) (by omega : minutes % 60 < 10 ^ 2) []
  rw [List.append_nil] at last
  simp only [offsetMinutes?, Option.bind_eq_bind, Option.bind_some, last,
    digits?_padded (by decide : 0 < 2) (by omega : minutes / 60 < 10 ^ 2)]
  rw [if_pos ⟨rfl, by omega, by omega⟩, Nat.div_add_mod]
  rfl

/-- Of some seconds east or west of UTC the whole minutes are read back. -/
theorem offset?_zoneText (west : Bool) {seconds : Nat} (near : seconds < 86400) :
    offset? (zoneText west seconds) =
      some (some (minutesEast (if west then -(seconds / 60 : Nat) else (seconds / 60 : Nat)))) := by
  have back : offsetMinutes? (padded 2 (seconds / 3600) ++ ':' :: padded 2 (seconds / 60 % 60)) =
      some ((seconds / 60 : Nat) : Int) := by
    have hours : seconds / 3600 = seconds / 60 / 60 := by omega
    rw [hours]
    exact offsetMinutes?_written (by omega)
  -- The sign is told by the first character, and the rest is the magnitude.
  cases west with
  | false => exact congrArg (Option.map fun minutes => some (minutesEast minutes)) back
  | true => exact congrArg (Option.map fun minutes => some (minutesEast (-minutes))) back

/-- The offset of a moment, if it has one, is one of whole minutes. -/
def ToMinute (m : Moment) : Prop := ∀ offset ∈ m.offset, (60000000 : Int) ∣ offset

instance (m : Moment) : Decidable m.ToMinute := by
  unfold ToMinute; infer_instance

/-- The mark of an offset of whole minutes is read back. -/
theorem offset?_wireMark {offset : Option Int}
    (near : ∀ found ∈ offset, found.natAbs < 86400000000)
    (whole : ∀ found ∈ offset, (60000000 : Int) ∣ found) :
    offset? (wireMark offset) = some offset := by
  cases offset with
  | none => rfl
  | some found =>
    obtain ⟨minutes, rfl⟩ := whole found rfl
    have near := near _ rfl
    -- There is nothing to round, and nothing to leave out.
    have seconds : ((60000000 * minutes).natAbs + 500000) / 1000000 = 60 * minutes.natAbs := by
      omega
    simp only [wireMark, seconds]
    by_cases zero : 60 * minutes.natAbs = 0
    · obtain rfl : minutes = 0 := by omega
      rfl
    · rw [if_neg zero, offset?_zoneText _ (by omega)]
      congr 2
      unfold minutesEast
      by_cases west : 60000000 * minutes < 0
      · rw [decide_eq_true west, if_pos rfl]
        omega
      · rw [decide_eq_false west, if_neg (by decide)]
        omega

/-- The mark of an offset begins with `Z` or with a sign. -/
theorem ends_wireMark (offset : Option Int) : Ends (wireMark offset) := by
  intro c member
  match offset, member with
  | some found, member =>
    by_cases zero : (found.natAbs + 500000) / 1000000 = 0
    · rw [wireMark, if_pos zero] at member
      cases member
      decide
    · rw [wireMark, if_neg zero] at member
      cases west : decide (found < 0) <;> rw [west] at member <;> cases member <;> decide

/-- A moment of the calendar that is written for the wire is read back as it was, if its offset is to the minute. -/
theorem ofText?_wireText {m : Moment} (valid : m.Valid) (whole : m.ToMinute) :
    ofText? m.wireText = some m := by
  have ⟨_, _, _, _, _, _, hour, minute, second, microsecond, near⟩ := valid
  have read : dateTime? (m.dateText ++ 'T' :: m.timeText ++ wireMark m.offset) = some m := by
    simp only [dateTime?, timeText, List.append_assoc, List.cons_append, date?_dateText valid,
      Option.bind_eq_bind, Option.bind_some, mark?_cons,
      digits?_padded (by decide : 0 < 2) (by omega : m.hour < 10 ^ 2),
      digits?_padded (by decide : 0 < 2) (by omega : m.minute < 10 ^ 2),
      seconds?_written second microsecond (ends_wireMark m.offset), offset?_wireMark near whole]
    rw [if_neg (by simp), if_pos ⟨hour, minute⟩]
    rfl
  rw [wireText, ofText?, String.toList_ofList, read]
  rfl

/-- An offset that is read is one of whole minutes. -/
theorem dvd_of_offset? {cs : List Char} {offset : Option Int} (read : offset? cs = some offset) :
    ∀ found ∈ offset, (60000000 : Int) ∣ found := by
  intro found member
  -- `Z` is none at all, and behind a sign hours and minutes are read.
  unfold offset? at read
  split at read
  · cases read
    cases member
  · split at read
    · split at read <;> cases read
      cases member
      exact Int.dvd_zero _
    · have signed : ∃ minutes, found = minutesEast minutes := by
        split at read
        · obtain ⟨minutes, _, rfl⟩ := Option.map_eq_some_iff.mp read
          exact ⟨minutes, (Option.some.inj member).symm⟩
        · split at read
          · obtain ⟨minutes, _, rfl⟩ := Option.map_eq_some_iff.mp read
            exact ⟨-minutes, (Option.some.inj member).symm⟩
          · cases read
      obtain ⟨minutes, rfl⟩ := signed
      exact Int.dvd_mul_right _ _

/-- What a count names is in UTC. -/
theorem toMinute_of_ofCount? {count : Int} {microseconds : Nat} {m : Moment}
    (named : ofCount? count microseconds = some m) : m.ToMinute := by
  have utc : m.offset = some 0 := by
    -- Seconds and milliseconds differ in the count alone.
    simp only [ofCount?, Option.ite_none_right_eq_some] at named
    exact congrArg Moment.offset (Option.some.inj named.2).symm
  intro offset member
  rw [utc] at member
  cases member
  exact Int.dvd_zero _

theorem toMinute_of_ofNumeral? {cs : List Char} {m : Moment} (named : ofNumeral? cs = some m) :
    m.ToMinute := by
  -- Whatever the fraction, a numeral is a count in the end.
  simp only [ofNumeral?, Option.ite_none_left_eq_some] at named
  obtain ⟨_, named⟩ := named
  split at named
  · exact toMinute_of_ofCount? named
  · split at named
    · cases named
    · split at named
      · exact toMinute_of_ofCount? named
      · cases named
  · cases named

theorem toMinute_of_dateTime? {cs : List Char} {m : Moment} (named : dateTime? cs = some m) :
    m.ToMinute := by
  unfold dateTime? at named
  obtain ⟨⟨date, rest⟩, _, named⟩ := Option.bind_eq_some_iff.mp named
  cases rest with
  | nil => cases named
  | cons separator rest =>
    simp only at named
    split at named
    · cases named
    · -- The parts of the time are read in their order, and the offset is the last of them.
      obtain ⟨⟨hour, _⟩, _, named⟩ := Option.bind_eq_some_iff.mp named
      obtain ⟨_, _, named⟩ := Option.bind_eq_some_iff.mp named
      obtain ⟨⟨minute, _⟩, _, named⟩ := Option.bind_eq_some_iff.mp named
      obtain ⟨⟨second, microsecond, mark⟩, _, named⟩ := Option.bind_eq_some_iff.mp named
      obtain ⟨offset, read, named⟩ := Option.bind_eq_some_iff.mp named
      split at named
      · cases named
        exact dvd_of_offset? read
      · cases named

theorem toMinute_of_dateAlone? {cs : List Char} {m : Moment} (named : dateAlone? cs = some m) :
    m.ToMinute := by
  unfold dateAlone? date? at named
  obtain ⟨⟨date, rest⟩, read, named⟩ := Option.bind_eq_some_iff.mp named
  obtain ⟨⟨year, _⟩, _, read⟩ := Option.bind_eq_some_iff.mp read
  obtain ⟨_, _, read⟩ := Option.bind_eq_some_iff.mp read
  obtain ⟨⟨month, _⟩, _, read⟩ := Option.bind_eq_some_iff.mp read
  obtain ⟨_, _, read⟩ := Option.bind_eq_some_iff.mp read
  obtain ⟨⟨day, _⟩, _, read⟩ := Option.bind_eq_some_iff.mp read
  -- Only the year, the month and the day are told.
  obtain ⟨_, told⟩ := Option.ite_none_right_eq_some.mp read
  cases told
  obtain ⟨_, told⟩ := Option.ite_none_right_eq_some.mp named
  cases told
  exact nofun

/-- A moment that a text names has an offset of whole minutes, or none. -/
theorem toMinute_of_ofText? {s : String} {m : Moment} (named : ofText? s = some m) :
    m.ToMinute := by
  -- The three readers are tried in turn.
  rcases Option.or_eq_some_iff.mp named with named | ⟨_, named⟩
  · rcases Option.or_eq_some_iff.mp named with named | ⟨_, named⟩
    · exact toMinute_of_dateTime? named
    · exact toMinute_of_ofNumeral? named
  · exact toMinute_of_dateAlone? named

/-- A moment of the calendar comes back out of its written form exactly if its offset is to the minute. -/
theorem check_wireText {m : Moment} (valid : m.Valid) :
    Check.moment (.text m.wireText) = .valid m ↔ m.ToMinute := by
  constructor
  · intro read
    -- Only what a text names passes the check of a text.
    simp only [Check.moment] at read
    split at read
    · cases read
    · next named =>
      split at read
      · cases read
      · cases read
        exact toMinute_of_ofText? named
  · intro whole
    have first : m.year ≠ 0 := fun zero => by
      have := valid.1
      omega
    simp only [Check.moment, ofText?_wireText valid whole, if_neg first]

end Issuance.Moment
