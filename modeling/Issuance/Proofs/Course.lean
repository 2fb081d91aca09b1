import Issuance.Proofs.Dialogue

/-! The course of a run: the calls it makes, none of which is made behind one that is not answered. -/

namespace Issuance

/-- The reply at a position is a response. -/
def Dialogue.Answers (dialogue : Dialogue) (position : Nat) : Prop :=
  ∃ arrival response, dialogue.arrivals[position]? = some arrival ∧
    arrival.reply = .response response

/--
One dialogue leads to another by calls, each of which takes a reply if one is left.

A response answers every call but the last, and the last one too if that is the way through.
-/
structure Dialogue.Course (calls : List Call) (through : Bool) (earlier later : Dialogue) : Prop where
  sent : later.sent = earlier.sent ++ calls
  arrivals : later.arrivals = earlier.arrivals.drop calls.length
  answered : ∀ position < calls.length, (through = false → position + 1 < calls.length) →
    earlier.Answers position

namespace Dialogue.Course

variable {calls others : List Call} {through : Bool} {earlier middle later : Dialogue}

/-- Without a call there is nothing to be answered. -/
theorem of_silence (sent : later.sent = earlier.sent) (arrivals : later.arrivals = earlier.arrivals) :
    Course [] through earlier later where
  sent := by rw [sent, List.append_nil]
  arrivals := arrivals
  answered position early := absurd early (Nat.not_lt_zero position)

/-- Calls are made behind others only once those are all answered. -/
theorem trans (first : Course calls true earlier middle)
    (second : Course others through middle later) :
    Course (calls ++ others) through earlier later where
  sent := by rw [second.sent, first.sent, List.append_assoc]
  arrivals := by rw [second.arrivals, first.arrivals, List.drop_drop, List.length_append]
  answered := by
    intro position early last
    rw [List.length_append] at early last
    by_cases before : position < calls.length
    · exact first.answered position before nofun
    · -- Behind the first calls, positions are counted from the later start.
      have place : calls.length + (position - calls.length) = position := by omega
      have answered := second.answered (position - calls.length) (by omega) fun stopped => by
        have := last stopped
        omega
      unfold Answers at answered
      rw [first.arrivals, List.getElem?_drop, place] at answered
      exact answered

/-- A call that is made behind one without a response has no place in a course. -/
theorem last_of_unanswered (course : Course calls through earlier later) {position : Nat}
    (early : position < calls.length) (unanswered : ¬ earlier.Answers position) :
    position + 1 = calls.length := by
  -- A position with another one behind it is answered, so that this one has none.
  rcases Nat.lt_or_ge (position + 1) calls.length with more | last
  · exact absurd (course.answered position early fun _ => more) unanswered
  · omega

end Dialogue.Course

/-- Wherever the dialogue stands, a run takes its course by calls of a language. -/
structure Run.Calls {α : Type} (run : Run α) (language : List Call → Prop) : Prop where
  course : ∀ dialogue, ∃ calls, language calls ∧
    Dialogue.Course calls (run.hold dialogue).1.isOk dialogue (run.hold dialogue).2

namespace Run.Calls

variable {α β : Type} {language one other : List Call → Prop}

/-- A run that neither sends nor takes anything makes no call. -/
theorem of_silent {run : Run α} (sent : ∀ dialogue, (run.hold dialogue).2.sent = dialogue.sent)
    (arrivals : ∀ dialogue, (run.hold dialogue).2.arrivals = dialogue.arrivals) :
    run.Calls (· = []) :=
  ⟨fun dialogue => ⟨[], rfl, .of_silence (sent dialogue) (arrivals dialogue)⟩⟩

theorem pure (value : α) : (Pure.pure value : Run α).Calls (· = []) :=
  of_silent (fun _ => rfl) fun _ => rfl

theorem fail (failure : Failure) : (Run.fail failure : Run α).Calls (· = []) :=
  of_silent (fun _ => rfl) fun _ => rfl

theorem throw (stop : Stop) : (MonadExcept.throw stop : Run α).Calls (· = []) :=
  of_silent (fun _ => rfl) fun _ => rfl

theorem get : (MonadState.get : Run Dialogue).Calls (· = []) :=
  of_silent (fun _ => rfl) fun _ => rfl

theorem log (level : Level) (event : String) (fields : Members) :
    (Run.log level event fields).Calls (· = []) :=
  of_silent (fun _ => rfl) fun _ => rfl

theorem sleep (sleeper : Sleeper) (seconds : Double) :
    (Run.sleep sleeper seconds).Calls (· = []) := by
  -- Taken or refused, a wait is no call.
  unfold Run.sleep
  cases sleeper seconds <;> exact of_silent (fun _ => rfl) fun _ => rfl

theorem recordPickup (pickupId : String) : (Run.recordPickup pickupId).Calls (· = []) :=
  of_silent (fun _ => rfl) fun _ => rfl

theorem ofOutcome (outcome : Outcome α) : (Run.ofOutcome outcome).Calls (· = []) :=
  of_silent (fun dialogue => by rw [hold_ofOutcome]) fun dialogue => by rw [hold_ofOutcome]

theorem ofPlatform (given : Except Lapse α) : (Run.ofPlatform given).Calls (· = []) :=
  of_silent (fun dialogue => by rw [hold_ofPlatform]) fun dialogue => by rw [hold_ofPlatform]

/-- A run that is one call gives a value only if a response answers it. -/
theorem of_call {run : Run α} {call : Call} (learned : Except Stop Response → Except Stop α)
    (held : ∀ dialogue, run.hold dialogue = (learned (dialogue.learns .ok), dialogue.called call))
    (stops : ∀ stop value, learned (.error stop) ≠ .ok value) : run.Calls (· = [call]) := by
  constructor
  intro dialogue
  rw [held]
  refine ⟨[call], rfl, dialogue.called_sent call, by simp, ?_⟩
  intro position early last
  -- There is but one position, and it is looked at only if the run has given a value.
  obtain rfl : position = 0 := by simpa using early
  cases response : dialogue.learns .ok with
  | ok found =>
    obtain ⟨arrival, rest, response, next, replied, _⟩ := Dialogue.learns_eq_ok.mp response
    exact ⟨arrival, response, by rw [next]; rfl, replied⟩
  | error stop =>
    cases given : learned (.error stop) with
    | ok value => exact absurd given (stops stop value)
    | error _ =>
      have := last (by rw [response, given]; rfl)
      simp at this

/-- Reading the response to a call is that one call. -/
theorem of_read {run : Run α} {call : Call} {read : Response → Outcome α}
    (held : ∀ dialogue, run.hold dialogue = (dialogue.learns read, dialogue.called call)) :
    run.Calls (· = [call]) := by
  -- The response is learned first, and read only if there is one.
  refine of_call (fun learned => learned.bind fun response => (read response).mapError .failed)
    (fun dialogue => ?_) fun _ _ => nofun
  rw [held, Dialogue.learns_eq_bind]

theorem mono {run : Run α} (calls : run.Calls one) (wider : ∀ calls, one calls → language calls) :
    run.Calls language := by
  constructor
  intro dialogue
  obtain ⟨made, known, course⟩ := calls.course dialogue
  exact ⟨made, wider made known, course⟩

/-- A run in two parts makes the calls of its first part, and behind them those of its second. -/
theorem bind {run : Run α} {next : α → Run β} (first : run.Calls one)
    (second : ∀ value, (next value).Calls other) (stopped : ∀ calls, one calls → language calls)
    (joined : ∀ calls others, one calls → other others → language (calls ++ others)) :
    (run >>= next).Calls language := by
  constructor
  intro dialogue
  rw [hold_bind]
  obtain ⟨calls, known, course⟩ := first.course dialogue
  cases held : run.hold dialogue with
  | mk outcome middle =>
    rw [held] at course
    -- A first part that stops is the end of the whole, and otherwise all its calls are answered.
    cases outcome with
    | error stop => exact ⟨calls, stopped calls known, course⟩
    | ok value =>
      obtain ⟨others, more, goesOn⟩ := (second value).course middle
      exact ⟨calls ++ others, joined calls others known more, course.trans goesOn⟩

/-- Behind a part without calls there are only those of the other part. -/
theorem silent_bind {run : Run α} {next : α → Run β} (first : run.Calls (· = []))
    (second : ∀ value, (next value).Calls language) (empty : language []) :
    (run >>= next).Calls language := by
  refine first.bind second ?_ ?_
  · intro calls none
    rw [none]
    exact empty
  · intro calls others none more
    rw [none]
    exact more

/-- Before a part without calls there are only those of the other part. -/
theorem bind_silent {run : Run α} {next : α → Run β} (first : run.Calls language)
    (second : ∀ value, (next value).Calls (· = [])) : (run >>= next).Calls language := by
  refine first.bind second (fun _ known => known) ?_
  intro calls others known none
  rw [none, List.append_nil]
  exact known

theorem map (f : α → β) {run : Run α} (calls : run.Calls language) :
    (f <$> run).Calls language := by
  constructor
  intro dialogue
  obtain ⟨made, known, course⟩ := calls.course dialogue
  refine ⟨made, known, ?_⟩
  rw [hold_map]
  -- What a value is mapped to is a value.
  cases held : (run.hold dialogue).1 with
  | error stop =>
    rw [held] at course
    exact course
  | ok value =>
    rw [held] at course
    exact course

end Run.Calls

end Issuance
