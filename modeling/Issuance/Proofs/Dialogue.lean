import Issuance.Client

/-! Laws of dialogues: what a step of a run makes of the dialogue so far, and what calls learn. -/

namespace Issuance

namespace Outcome

variable {ε ε' α : Type}

@[simp] theorem mapError_ok (f : ε → ε') (value : α) :
    (Except.ok value : Except ε α).mapError f = .ok value := rfl

@[simp] theorem mapError_error (f : ε → ε') (failure : ε) :
    (Except.error failure : Except ε α).mapError f = .error (f failure) := rfl

/-- Another look at the failures leaves the values as they are. -/
theorem mapError_eq_ok {outcome : Except ε α} {f : ε → ε'} {value : α} :
    outcome.mapError f = .ok value ↔ outcome = .ok value := by
  cases outcome <;> simp

/-- A run fails with the failure of the outcome that it takes over. -/
theorem mapError_eq_failed {outcome : Outcome α} {failure : Failure} :
    outcome.mapError Stop.failed = .error (.failed failure) ↔ outcome = .error failure := by
  cases outcome <;> simp

end Outcome

namespace Reply

/-- What a reply means to the caller: a response, or the end of the dialogue. -/
def answer : Reply → Except Stop Response
  | .response found => .ok found
  | .timeout text => .error (.failed (.callTimedOut text))
  | .broken text => .error (.failed (.callBroken text))
  | .abandoned reason => .error (.abandoned reason)

/-- What a call learns from a reply, given how its response is read. -/
def learned {α : Type} (reply : Reply) (read : Response → Outcome α) : Except Stop α :=
  reply.answer.bind fun found => (read found).mapError .failed

/-- A reply is a response with a status, and its body passes a check as a value. -/
def Tells {α : Type} (reply : Reply) (check : Check α) (status : Int) (value : α) : Prop :=
  ∃ found, reply = .response found ∧ found.status = status ∧
    readBody check found.body = .valid value

end Reply

/-- Decoding succeeds exactly on the expected status with a body that passes the check. -/
theorem Response.decode_eq_ok {α : Type} {response : Response} {check : Check α}
    {operation : String} {expected : Int} {value : α} :
    response.decode check operation expected = .ok value ↔
      response.status = expected ∧ readBody check response.body = .valid value := by
  unfold Response.decode decodeBody
  -- The status is looked at first, and only then the body.
  by_cases expects : response.status = expected
  · cases readBody check response.body <;> simp [expects]
  · simp [expects]

/-- A call that decodes its response learns a value exactly when the reply tells it. -/
theorem Reply.learned_decode_eq_ok {α : Type} {reply : Reply} {check : Check α}
    (operation : String) {expected : Int} {value : α} :
    reply.learned (fun response => response.decode check operation expected) = .ok value ↔
      reply.Tells check expected value := by
  unfold Reply.learned Reply.Tells
  -- Only a response can teach anything; every other reply ends the dialogue.
  cases reply with
  | response found =>
    -- What the reply tells is put in terms of the decoding, which then has two outcomes.
    have decoded : found.decode check operation expected = .ok value ↔ _ := Response.decode_eq_ok
    simp only [answer, Except.bind, Reply.response.injEq, exists_eq_left', ← decoded]
    cases found.decode check operation expected <;> simp
  | timeout text => simp [answer, Except.bind]
  | broken text => simp [answer, Except.bind]
  | abandoned reason => simp [answer, Except.bind]

namespace Run

variable {α β : Type}

/-- Holds the part of a dialogue that a run is for, from where it stands. -/
def hold (run : Run α) (dialogue : Dialogue) : Except Stop α × Dialogue := run.run.run dialogue

/-- A whole dialogue is held from the point where nothing has been said. -/
theorem on_eq_hold (run : Run α) (arrivals : List Arrival) :
    run.on arrivals = run.hold { arrivals } := rfl

@[simp] theorem hold_pure (value : α) (dialogue : Dialogue) :
    (pure value : Run α).hold dialogue = (.ok value, dialogue) := rfl

@[simp] theorem hold_fail (failure : Failure) (dialogue : Dialogue) :
    (fail failure : Run α).hold dialogue = (.error (.failed failure), dialogue) := rfl

@[simp] theorem hold_get (dialogue : Dialogue) :
    (get : Run Dialogue).hold dialogue = (.ok dialogue, dialogue) := rfl

/-- A run in two parts: the second goes on where the first ends, unless that stops. -/
theorem hold_bind (run : Run α) (next : α → Run β) (dialogue : Dialogue) :
    (run >>= next).hold dialogue = match run.hold dialogue with
      | (.ok value, later) => (next value).hold later
      | (.error stop, later) => (.error stop, later) := by
  unfold hold ExceptT.run StateT.run
  simp only [bind, ExceptT.bind, ExceptT.mk, StateT.bind]
  -- The two outcomes of the first part are told apart by the same match on both sides.
  cases run dialogue with
  | mk outcome later => cases outcome <;> rfl

/-- The second part goes on with the value the first part gives. -/
theorem hold_bind_ok {run : Run α} {next : α → Run β} {dialogue later : Dialogue} {value : α}
    (held : run.hold dialogue = (.ok value, later)) :
    (run >>= next).hold dialogue = (next value).hold later := by
  rw [hold_bind, held]

/-- Where the first part stops there is no second part. -/
theorem hold_bind_error {run : Run α} {next : α → Run β} {dialogue later : Dialogue} {stop : Stop}
    (held : run.hold dialogue = (.error stop, later)) :
    (run >>= next).hold dialogue = (.error stop, later) := by
  rw [hold_bind, held]

/-- A run in two parts that gives a value has come through both of them. -/
theorem hold_bind_eq_ok {run : Run α} {next : α → Run β} {dialogue later : Dialogue} {value : β}
    (held : (run >>= next).hold dialogue = (.ok value, later)) :
    ∃ passed middle, run.hold dialogue = (.ok passed, middle) ∧
      (next passed).hold middle = (.ok value, later) := by
  rw [hold_bind] at held
  cases first : run.hold dialogue with
  | mk outcome middle =>
    rw [first] at held
    -- A first part that stops would be the end of the whole.
    cases outcome with
    | error stop => simp at held
    | ok passed => exact ⟨passed, middle, rfl, held⟩

/-- Two second parts make the same run if they go on alike with all that the first part can give. -/
theorem hold_bind_congr {run : Run α} {next other : α → Run β} {dialogue : Dialogue}
    (alike : ∀ value later, run.hold dialogue = (.ok value, later) →
      (next value).hold later = (other value).hold later) :
    (run >>= next).hold dialogue = (run >>= other).hold dialogue := by
  rw [hold_bind, hold_bind]
  cases held : run.hold dialogue with
  | mk outcome later =>
    -- Where the first part stops, there is no second part to differ.
    cases outcome with
    | error stop => rfl
    | ok value => exact alike value later held

/-- A run whose end is caught gives its value, or goes on with what its end is handled by. -/
theorem hold_tryCatch (run : Run α) (handle : Stop → Run α) (dialogue : Dialogue) :
    (tryCatch run handle).hold dialogue = match run.hold dialogue with
      | (.ok value, later) => (.ok value, later)
      | (.error stop, later) => (handle stop).hold later := by
  unfold hold ExceptT.run StateT.run
  simp only [tryCatch, tryCatchThe, MonadExceptOf.tryCatch, ExceptT.tryCatch, ExceptT.mk, bind,
    StateT.bind]
  cases run dialogue with
  | mk outcome later => cases outcome <;> rfl

/-- What a value is mapped to makes no difference to the dialogue. -/
theorem hold_map (f : α → β) (run : Run α) (dialogue : Dialogue) :
    (f <$> run).hold dialogue = ((run.hold dialogue).1.map f, (run.hold dialogue).2) := by
  rw [map_eq_pure_bind, hold_bind]
  cases run.hold dialogue with
  | mk outcome later => cases outcome <;> rfl

@[simp] theorem hold_ofOutcome (outcome : Outcome α) (dialogue : Dialogue) :
    (ofOutcome outcome).hold dialogue = (outcome.mapError .failed, dialogue) := by
  -- Either a value is there at once, or a failure ends the run; neither says anything.
  cases outcome <;> rfl

/-- Taking over an outcome gives the value that the outcome has, and says nothing. -/
theorem hold_ofOutcome_eq_ok {outcome : Outcome α} {dialogue later : Dialogue} {value : α} :
    (ofOutcome outcome).hold dialogue = (.ok value, later) ↔
      outcome = .ok value ∧ dialogue = later := by
  rw [hold_ofOutcome, Prod.mk.injEq]
  -- A failure is no value on either side.
  cases outcome <;> simp

/-- Taking over what the platform gives ends the run with a refusal, and says nothing. -/
@[simp] theorem hold_ofPlatform (given : Except Lapse α) (dialogue : Dialogue) :
    (ofPlatform given).hold dialogue = (given.mapError .lapsed, dialogue) := by
  cases given <;> rfl

@[simp] theorem hold_present (session : Session) (dialogue : Dialogue) :
    (present (some session)).hold dialogue = (.ok session, dialogue) := rfl

@[simp] theorem hold_log (level : Level) (event : String) (fields : Members) (dialogue : Dialogue) :
    (log level event fields).hold dialogue =
      (.ok (), { dialogue with log := dialogue.log ++ [⟨level, event, fields⟩] }) := rfl

/-- A wait is over when its seconds have passed, unless the sleeper refuses it. -/
theorem hold_sleep (sleeper : Sleeper) (seconds : Double) (dialogue : Dialogue) :
    (sleep sleeper seconds).hold dialogue = match sleeper seconds with
      | some lapse => (.error (.lapsed lapse), dialogue)
      | none => (.ok (), { dialogue with
          sleeps := dialogue.sleeps ++ [seconds], clock := dialogue.clock + seconds }) := by
  unfold sleep
  cases sleeper seconds <;> rfl

theorem hold_sleep_taken {sleeper : Sleeper} {seconds : Double} (taken : sleeper seconds = none)
    (dialogue : Dialogue) :
    (sleep sleeper seconds).hold dialogue = (.ok (), { dialogue with
      sleeps := dialogue.sleeps ++ [seconds], clock := dialogue.clock + seconds }) := by
  rw [hold_sleep, taken]

theorem hold_sleep_refused {sleeper : Sleeper} {seconds : Double} {lapse : Lapse}
    (refused : sleeper seconds = some lapse) (dialogue : Dialogue) :
    (sleep sleeper seconds).hold dialogue = (.error (.lapsed lapse), dialogue) := by
  rw [hold_sleep, refused]

end Run

namespace Dialogue

/-- The dialogue after one more call, and the reply to it if one is left. -/
def called (dialogue : Dialogue) (call : Call) : Dialogue :=
  ((Client.send call).hold dialogue).2

/-- What the next call learns, given how its response is read. -/
def learns {α : Type} (dialogue : Dialogue) (read : Response → Outcome α) : Except Stop α :=
  match dialogue.arrivals with
  | [] => .error .unanswered
  | arrival :: _ => arrival.reply.learned read

/-- A call learns from the first of the replies that are to come. -/
theorem learns_cons {α : Type} {dialogue : Dialogue} {arrival : Arrival} {rest : List Arrival}
    (next : dialogue.arrivals = arrival :: rest) (read : Response → Outcome α) :
    dialogue.learns read = arrival.reply.learned read := by
  rw [learns, next]

/-- A response is learned first, and then it is read. -/
theorem learns_eq_bind {α : Type} (dialogue : Dialogue) (read : Response → Outcome α) :
    dialogue.learns read =
      (dialogue.learns .ok).bind fun response => (read response).mapError .failed := by
  unfold learns Reply.learned
  rcases dialogue.arrivals with _ | ⟨⟨_, reply⟩, rest⟩
  · rfl
  -- Whatever is no response ends the dialogue before there is anything to read.
  · cases reply <;> rfl

/-- What is learned comes from a response that is the next reply. -/
theorem learns_eq_ok {α : Type} {dialogue : Dialogue} {read : Response → Outcome α} {value : α} :
    dialogue.learns read = .ok value ↔ ∃ arrival rest response,
      dialogue.arrivals = arrival :: rest ∧ arrival.reply = .response response ∧
        read response = .ok value := by
  unfold learns Reply.learned
  cases dialogue.arrivals with
  | nil => simp
  | cons arrival rest =>
    cases replied : arrival.reply with
    | response response =>
      simp [Reply.answer, Except.bind, replied, Outcome.mapError_eq_ok]
    | timeout text => simp [Reply.answer, Except.bind, replied]
    | broken text => simp [Reply.answer, Except.bind, replied]
    | abandoned reason => simp [Reply.answer, Except.bind, replied]

/-- A call that decodes its response learns a value exactly when the next reply tells it. -/
theorem learns_decode_eq_ok {α : Type} {dialogue : Dialogue} {check : Check α}
    (operation : String) {expected : Int} {value : α} :
    dialogue.learns (fun response => response.decode check operation expected) = .ok value ↔
      ∃ arrival rest, dialogue.arrivals = arrival :: rest ∧
        arrival.reply.Tells check expected value := by
  unfold learns
  -- Without a reply left nothing is learned, and there is nothing that could tell the value.
  cases dialogue.arrivals with
  | nil => simp
  | cons arrival rest => simp [Reply.learned_decode_eq_ok]

variable (dialogue : Dialogue) (call : Call)

@[simp] theorem called_sent : (dialogue.called call).sent = dialogue.sent ++ [call] := by
  -- The call is sent before its reply is looked at, so that the reply makes no difference.
  rcases dialogue with ⟨_ | ⟨⟨delay, reply⟩, rest⟩, _, _, _, _, _⟩
  · rfl
  · cases reply <;> rfl

@[simp] theorem called_arrivals : (dialogue.called call).arrivals = dialogue.arrivals.tail := by
  -- A reply that is left is taken, of whatever kind it is.
  rcases dialogue with ⟨_ | ⟨⟨delay, reply⟩, rest⟩, _, _, _, _, _⟩
  · rfl
  · cases reply <;> rfl

@[simp] theorem called_sleeps : (dialogue.called call).sleeps = dialogue.sleeps := by
  -- Waiting for a reply is not sleeping.
  rcases dialogue with ⟨_ | ⟨⟨delay, reply⟩, rest⟩, _, _, _, _, _⟩
  · rfl
  · cases reply <;> rfl

@[simp] theorem called_recorded : (dialogue.called call).recorded = dialogue.recorded := by
  -- What is recorded is up to the caller, whatever the reply.
  rcases dialogue with ⟨_ | ⟨⟨delay, reply⟩, rest⟩, _, _, _, _, _⟩
  · rfl
  · cases reply <;> rfl

end Dialogue

namespace Client

/-- A call whose response is read gives what its reply teaches, and leads one call on. -/
theorem hold_send_read {α : Type} (call : Call) (read : Response → Outcome α)
    (dialogue : Dialogue) :
    (send call >>= fun response => Run.ofOutcome (read response)).hold dialogue =
      (dialogue.learns read, dialogue.called call) := by
  rcases dialogue with ⟨_ | ⟨⟨delay, reply⟩, rest⟩, _, _, _, _, _⟩
  -- A call that is not answered ends the run before there is anything to read.
  · rfl
  · cases reply with
    | response found =>
      -- Only with a response does the run come to its second part, the reading.
      refine (Run.hold_bind_ok (rfl : (send call).hold _ = (.ok found, _))).trans ?_
      rw [Run.hold_ofOutcome]
      rfl
    | timeout text => rfl
    | broken text => rfl
    | abandoned reason => rfl

end Client

/--
One dialogue is reached from another by calls alone.

Each of them takes a reply if one is left.
-/
structure Dialogue.ReachedBy (calls : List Call) (earlier later : Dialogue) : Prop where
  sent : later.sent = earlier.sent ++ calls
  arrivals : later.arrivals = earlier.arrivals.drop calls.length
  sleeps : later.sleeps = earlier.sleeps
  recorded : later.recorded = earlier.recorded

namespace Dialogue.ReachedBy

/-- Without a call the dialogue stays where it is. -/
theorem refl (dialogue : Dialogue) : ReachedBy [] dialogue dialogue := ⟨by simp, rfl, rfl, rfl⟩

/-- One call leads one call on. -/
theorem call (dialogue : Dialogue) (call : Call) :
    ReachedBy [call] dialogue (dialogue.called call) :=
  ⟨dialogue.called_sent call, by simp, dialogue.called_sleeps call, dialogue.called_recorded call⟩

/-- Calls are made one after another. -/
theorem trans {first second : List Call} {earlier middle later : Dialogue}
    (start : ReachedBy first earlier middle) (finish : ReachedBy second middle later) :
    ReachedBy (first ++ second) earlier later where
  sent := by rw [finish.sent, start.sent, List.append_assoc]
  arrivals := by rw [finish.arrivals, start.arrivals, List.drop_drop, List.length_append]
  sleeps := finish.sleeps.trans start.sleeps
  recorded := finish.recorded.trans start.recorded

/-- What is logged afterwards makes no difference to the calls. -/
theorem logged {calls : List Call} {earlier later : Dialogue}
    (reached : ReachedBy calls earlier later) (log : List LogEntry) :
    ReachedBy calls earlier { later with log } :=
  -- The log is no part of what is claimed about the later dialogue.
  ⟨reached.sent, reached.arrivals, reached.sleeps, reached.recorded⟩

end Dialogue.ReachedBy

/-- Wherever the dialogue stands, a run takes back nothing that was sent. -/
def Run.Extends {α : Type} (run : Run α) : Prop :=
  ∀ dialogue, dialogue.sent <+: (run.hold dialogue).2.sent

namespace Run.Extends

variable {α β : Type}

/-- A run that sends nothing takes nothing back. -/
theorem of_silent {run : Run α} (silent : ∀ dialogue, (run.hold dialogue).2.sent = dialogue.sent) :
    run.Extends := by
  intro dialogue
  -- What was sent before is continued by nothing.
  exact ⟨[], by rw [silent, List.append_nil]⟩

theorem pure (value : α) : (Pure.pure value : Run α).Extends := of_silent fun _ => rfl

theorem fail (failure : Failure) : (Run.fail failure : Run α).Extends := of_silent fun _ => rfl

theorem ofOutcome (outcome : Outcome α) : (Run.ofOutcome outcome).Extends :=
  of_silent fun dialogue => by rw [hold_ofOutcome]

theorem ofPlatform (given : Except Lapse α) : (Run.ofPlatform given).Extends :=
  of_silent fun dialogue => by rw [hold_ofPlatform]

theorem log (level : Level) (event : String) (fields : Members) :
    (Run.log level event fields).Extends := of_silent fun _ => rfl

/-- What the first part of a run has sent stays sent, if the second part takes nothing back. -/
theorem sent_bind (run : Run α) {next : α → Run β} (second : ∀ value, (next value).Extends)
    (dialogue : Dialogue) :
    (run.hold dialogue).2.sent <+: ((run >>= next).hold dialogue).2.sent := by
  rw [hold_bind]
  cases held : run.hold dialogue with
  | mk outcome later =>
    -- Only a first part that has not stopped is followed by a second one.
    cases outcome with
    | error stop => exact List.prefix_rfl
    | ok value => exact second value later

/-- A run in two parts takes nothing back if neither part does. -/
theorem bind {run : Run α} {next : α → Run β} (first : run.Extends)
    (second : ∀ value, (next value).Extends) : (run >>= next).Extends :=
  fun dialogue => (first dialogue).trans (sent_bind run second dialogue)

theorem sleep (sleeper : Sleeper) (seconds : Double) : (Run.sleep sleeper seconds).Extends :=
  of_silent fun dialogue => by
    -- A wait that is refused changes nothing, and one that is taken sends nothing.
    rw [hold_sleep]
    cases sleeper seconds <;> rfl

end Run.Extends

/-- Wherever the dialogue stands, a run starts with a call, before anything else is sent. -/
def Run.Begins {α : Type} (run : Run α) (call : Call) : Prop :=
  ∀ dialogue, dialogue.sent ++ [call] <+: (run.hold dialogue).2.sent

namespace Run.Begins

variable {α β : Type} {call : Call}

/-- Reading the response to a call starts with the call. -/
theorem of_call {run : Run α} {read : Response → Outcome α}
    (held : ∀ dialogue, run.hold dialogue = (dialogue.learns read, dialogue.called call)) :
    run.Begins call := by
  intro dialogue
  -- Reading a response sends nothing more.
  exact ⟨[], by rw [held, Dialogue.called_sent, List.append_nil]⟩

/-- A run that starts with a call takes nothing back. -/
theorem toExtends {run : Run α} (begins : run.Begins call) : run.Extends :=
  fun dialogue => (List.prefix_append ..).trans (begins dialogue)

/-- A run in two parts starts with what its first part starts with. -/
theorem bind {run : Run α} {next : α → Run β} (first : run.Begins call)
    (second : ∀ value, (next value).Extends) : (run >>= next).Begins call :=
  -- The call is among what the first part has sent, and that stays sent.
  fun dialogue => (first dialogue).trans (Extends.sent_bind run second dialogue)

end Run.Begins

/-- Between two points of a dialogue, each call takes a reply that a service gives to it. -/
def Dialogue.AnsweredBy (service : Call → Reply → Prop) (earlier later : Dialogue) : Prop :=
  ∀ position call, later.sent[earlier.sent.length + position]? = some call →
    ∃ arrival, earlier.arrivals[position]? = some arrival ∧ service call arrival.reply

namespace Dialogue.AnsweredBy

variable {service : Call → Reply → Prop} {earlier later : Dialogue} {call : Call}

/-- What is answered from some point on is answered from any point on that some calls lead to. -/
theorem after {calls : List Call} {middle : Dialogue} (answered : AnsweredBy service earlier later)
    (sent : middle.sent = earlier.sent ++ calls)
    (arrivals : middle.arrivals = earlier.arrivals.drop calls.length) :
    AnsweredBy service middle later := by
  intro position asked found
  -- Positions are counted from the later start, behind the calls that lead there.
  rw [sent, List.length_append, Nat.add_assoc] at found
  rw [arrivals, List.getElem?_drop]
  exact answered (calls.length + position) asked found

/-- What is answered from some point on is answered from one call later on. -/
theorem called (answered : AnsweredBy service earlier later) (call : Call) :
    AnsweredBy service (earlier.called call) later :=
  answered.after (earlier.called_sent call) (by simp)

/-- Where a whole run is answered, so is its first part. -/
theorem first {α β : Type} {run : Run α} {next : α → Run β}
    (second : ∀ value, (next value).Extends)
    (answered : AnsweredBy service earlier ((run >>= next).hold earlier).2) :
    AnsweredBy service earlier (run.hold earlier).2 := by
  -- The calls of the first part are the first calls of the whole run.
  obtain ⟨calls, sent⟩ := Run.Extends.sent_bind run second earlier
  intro position asked found
  apply answered position asked
  rw [← sent, List.getElem?_append_left (List.getElem?_eq_some_iff.mp found).1, found]

/-- The call an answered run starts with takes the next reply, which the service gives to it. -/
theorem next {α : Type} {run : Run α} (begins : run.Begins call)
    (answered : AnsweredBy service earlier (run.hold earlier).2) :
    ∃ arrival rest, earlier.arrivals = arrival :: rest ∧ service call arrival.reply := by
  obtain ⟨calls, sent⟩ := begins earlier
  -- The call stands at the first position, so that it takes the first reply there is.
  obtain ⟨arrival, first, serves⟩ := answered 0 call (by simp [← sent])
  obtain ⟨rest, arrivals⟩ := List.head?_eq_some_iff.mp (List.head?_eq_getElem? .. ▸ first)
  exact ⟨arrival, rest, arrivals, serves⟩

end Dialogue.AnsweredBy

end Issuance
