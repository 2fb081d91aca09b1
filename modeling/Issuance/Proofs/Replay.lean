import Issuance.Proofs.Verification

/-! Two runs over the same replies do the same, wherever the one has come from. -/

namespace Issuance

/--
One dialogue stands as another does, but for calls that it has made before.

The replies to come are the same, and so is what has been slept. The clocks may differ.
-/
structure Dialogue.Echoes (before : List Call) (later fresh : Dialogue) : Prop where
  sent : later.sent = before ++ fresh.sent
  arrivals : later.arrivals = fresh.arrivals
  sleeps : later.sleeps = fresh.sleeps

namespace Dialogue.Echoes

variable {before : List Call} {later fresh : Dialogue}

/-- Making the same call in both leaves them as alike as they were. -/
theorem called (echoes : Echoes before later fresh) (call : Call) :
    Echoes before (later.called call) (fresh.called call) where
  sent := by rw [called_sent, called_sent, echoes.sent, List.append_assoc]
  arrivals := by rw [called_arrivals, called_arrivals, echoes.arrivals]
  sleeps := by rw [called_sleeps, called_sleeps, echoes.sleeps]

/-- A call learns the same in both. -/
theorem learns {α : Type} (echoes : Echoes before later fresh) (read : Response → Outcome α) :
    later.learns read = fresh.learns read := by
  unfold Dialogue.learns
  rw [echoes.arrivals]

end Dialogue.Echoes

/-- Two runs, each from where its dialogue stands, come to the same and leave the dialogues alike. -/
def Run.Echo {α : Type} (before : List Call) (run other : Run α) (later fresh : Dialogue) : Prop :=
  (run.hold later).1 = (other.hold fresh).1 ∧
    Dialogue.Echoes before (run.hold later).2 (other.hold fresh).2

/-- A run that looks at no clock comes to the same in dialogues that are alike. -/
structure Run.Timeless {α : Type} (run : Run α) : Prop where
  echo : ∀ {before later fresh}, Dialogue.Echoes before later fresh →
    Run.Echo before run run later fresh

namespace Run

variable {α β : Type} {before : List Call} {later fresh : Dialogue}

/-- Runs in two parts come to the same if both their parts do. -/
theorem Echo.bind {run other : Run α} {next after : α → Run β}
    (first : Echo before run other later fresh)
    (second : ∀ value middle start, run.hold later = (.ok value, middle) →
      other.hold fresh = (.ok value, start) → Dialogue.Echoes before middle start →
        Echo before (next value) (after value) middle start) :
    Echo before (run >>= next) (other >>= after) later fresh := by
  unfold Echo at first ⊢
  rw [hold_bind, hold_bind]
  rcases held : run.hold later with ⟨outcome, middle⟩
  rcases heldToo : other.hold fresh with ⟨outcomeToo, start⟩
  rw [held, heldToo] at first
  obtain ⟨same, echoes⟩ := first
  dsimp only at same echoes
  subst same
  -- Both first parts stop, or both go on with one value.
  cases outcome with
  | error stop => exact ⟨rfl, echoes⟩
  | ok value => exact second value middle start held heldToo echoes

namespace Timeless

theorem pure (value : α) : (Pure.pure value : Run α).Timeless := ⟨fun echoes => ⟨rfl, echoes⟩⟩

theorem fail (failure : Failure) : (Run.fail failure : Run α).Timeless :=
  ⟨fun echoes => ⟨rfl, echoes⟩⟩

theorem log (level : Level) (event : String) (fields : Members) :
    (Run.log level event fields).Timeless :=
  ⟨fun echoes => ⟨rfl, echoes.sent, echoes.arrivals, echoes.sleeps⟩⟩

/-- A call that is made and read looks at its reply alone. -/
theorem of_call {run : Run α} {call : Call} {read : Response → Outcome α}
    (held : ∀ dialogue, ∃ log, run.hold dialogue =
      (dialogue.learns read, { dialogue.called call with log })) : run.Timeless := by
  constructor
  intro before later fresh echoes
  obtain ⟨log, heldLater⟩ := held later
  obtain ⟨other, heldFresh⟩ := held fresh
  have called := echoes.called call
  unfold Echo
  rw [heldLater, heldFresh]
  exact ⟨echoes.learns read, called.sent, called.arrivals, called.sleeps⟩

theorem bind {run : Run α} {next : α → Run β} (first : run.Timeless)
    (second : ∀ value, (next value).Timeless) : (run >>= next).Timeless :=
  ⟨fun echoes => (first.echo echoes).bind fun value _ _ _ _ alike => (second value).echo alike⟩

end Timeless

end Run

namespace Polling

/-- Whether each reading of a wait would be out of time, by the clock that it is read at. -/
def lateness (timeout interval start clock : Double) (arrivals : List Arrival) : List Bool :=
  (readings interval clock arrivals).map fun reading => timeout.le (reading.clock - start)

theorem lateness_cons (timeout interval start clock : Double) (arrival : Arrival)
    (rest : List Arrival) :
    lateness timeout interval start clock (arrival :: rest) =
      timeout.le ((Reading.of clock arrival).clock - start) ::
        lateness timeout interval start ((Reading.of clock arrival).clock + interval) rest := rfl

variable (session : Session) (requestId : String) (timeout : Double)

theorem timeless_observe : (observe session requestId timeout).Timeless := by
  refine Run.Timeless.bind (.of_call fun dialogue =>
    ⟨_, Client.hold_status session dialogue requestId⟩) fun status => ?_
  split
  · exact (Run.Timeless.log _ _ _).bind fun _ => .fail _
  · split
    · exact .fail _
    · exact .pure _

theorem timeless_issuedCertificate (status : RequestStatus) :
    (issuedCertificate requestId status).Timeless := by
  unfold issuedCertificate
  split
  · exact .fail _
  · exact (Run.Timeless.log _ _ _).bind fun _ => .pure _

variable {session requestId timeout}

/-- A look at the status that gives one has taken a reply, and its reading shows the clock then. -/
theorem observe_eq_ok {dialogue later : Dialogue} {status : RequestStatus}
    (held : (observe session requestId timeout).hold dialogue = (.ok status, later)) :
    ∃ arrival, dialogue.arrivals = arrival :: later.arrivals ∧
      later.clock = (Reading.of dialogue.clock arrival).clock := by
  obtain ⟨outcome, middle, again, _, told⟩ := observe_follows session requestId timeout dialogue
  rw [held] at again
  cases again
  obtain ⟨_, arrival, taken, _⟩ := told status rfl
  -- A status has been read from a reply, so that there has been one.
  cases next : dialogue.arrivals with
  | nil => simp [next] at taken
  | cons first rest =>
    have reading : (readings .zero dialogue.clock dialogue.arrivals)[0]? =
        some (.of dialogue.clock first) := by
      rw [next]
      rfl
    obtain ⟨log, observed⟩ := hold_observe session requestId timeout next reading
    have same := congrArg Prod.snd (held.symm.trans observed)
    dsimp only at same
    exact ⟨first, by rw [same], by rw [same]⟩

/-- The reads of two waits over the same replies go on as long as each other, at the same times. -/
theorem echo_readUntilFinal {before : List Call} (sleeper : Sleeper)
    {interval start otherStart : Double} (reads : Nat)
    {later fresh : Dialogue} (echoes : Dialogue.Echoes before later fresh)
    (times : lateness timeout interval start later.clock fresh.arrivals =
      lateness timeout interval otherStart fresh.clock fresh.arrivals) :
    Run.Echo before (readUntilFinal sleeper session requestId timeout interval start reads)
      (readUntilFinal sleeper session requestId timeout interval otherStart reads) later fresh := by
  -- The induction is on the reads that are left; what carries it is that both are late alike.
  induction reads generalizing later fresh with
  | zero => exact ⟨rfl, echoes⟩
  | succ reads ih =>
    refine ((timeless_observe session requestId timeout).echo echoes).bind ?_
    intro status middle begun observed observedToo alike
    obtain ⟨arrival, next, clock⟩ := observe_eq_ok observed
    obtain ⟨other, nextToo, clockToo⟩ := observe_eq_ok observedToo
    rw [echoes.arrivals, nextToo] at next
    obtain ⟨rfl, _⟩ := List.cons.inj next
    -- The first reading is as late in both, and so is each of the others.
    rw [nextToo, lateness_cons, lateness_cons, ← clock, ← clockToo] at times
    obtain ⟨first, others⟩ := List.cons.inj times
    cases status.state.inFlight with
    | false => exact ⟨rfl, alike⟩
    | true =>
      unfold Run.Echo
      simp only [Bool.not_true, Bool.false_eq_true, if_false]
      rw [Run.hold_bind_ok (Run.hold_get middle), Run.hold_bind_ok (Run.hold_get begun), first]
      cases timeout.le (begun.clock - otherStart) with
      | true => exact ⟨rfl, alike.sent, alike.arrivals, alike.sleeps⟩
      | false =>
        simp only [Bool.false_eq_true, if_false]
        cases refusal : sleeper interval with
        | some lapse =>
          rw [Run.hold_bind_error (Run.hold_sleep_refused refusal middle),
            Run.hold_bind_error (Run.hold_sleep_refused refusal begun)]
          exact ⟨rfl, alike⟩
        | none =>
          -- Behind the sleep the waits are as alike as before it, with one reply fewer.
          rw [Run.hold_bind_ok (Run.hold_sleep_taken refusal middle),
            Run.hold_bind_ok (Run.hold_sleep_taken refusal begun)]
          exact ih ⟨alike.sent, alike.arrivals, congrArg (· ++ [interval]) alike.sleeps⟩ others

/-- A wait comes to the same over the same replies if it is late by the same readings. -/
theorem echo_awaitIssuance {before : List Call} (sleeper : Sleeper) {interval : Double}
    {requestId : Option String} {later fresh : Dialogue} (echoes : Dialogue.Echoes before later fresh)
    (times : lateness timeout interval later.clock later.clock fresh.arrivals =
      lateness timeout interval fresh.clock fresh.clock fresh.arrivals) :
    Run.Echo before (awaitIssuance sleeper (some session) interval requestId timeout)
      (awaitIssuance sleeper (some session) interval requestId timeout) later fresh := by
  unfold awaitIssuance
  cases filled? requestId with
  | none => exact ⟨rfl, echoes⟩
  | some requestId =>
    unfold Run.Echo
    simp only
    rw [Run.hold_bind_ok (Run.hold_present session later), Run.hold_bind_ok (Run.hold_get later),
      Run.hold_bind_ok (Run.hold_present session fresh), Run.hold_bind_ok (Run.hold_get fresh),
      echoes.arrivals]
    refine (echo_readUntilFinal sleeper _ echoes times).bind fun status _ _ _ _ alike => ?_
    exact ((timeless_issuedCertificate requestId status).bind fun _ => .pure _).echo alike

end Polling

namespace Manager

variable (session : Session) (request : CertificateRequest) (pickupId : String)

theorem timeless_fetchChain (certificateId : String) :
    (fetchChain session request pickupId certificateId).Timeless :=
  .of_call (hold_fetchChain session request pickupId certificateId)

/-- The retrieval of a submitted request comes to the same if its wait is late by the same readings. -/
theorem echo_retrieveSubmitted (manager : Manager) {before : List Call} {later fresh : Dialogue}
    (echoes : Dialogue.Echoes before later fresh)
    (times : Polling.lateness request.patience manager.pollInterval later.clock later.clock
        fresh.arrivals =
      Polling.lateness request.patience manager.pollInterval fresh.clock fresh.clock
        fresh.arrivals) :
    Run.Echo before (manager.retrieveSubmitted session request pickupId)
      (manager.retrieveSubmitted session request pickupId) later fresh := by
  refine (Polling.echo_awaitIssuance _ echoes times).bind fun waited _ _ _ _ alike => ?_
  cases waited with
  | none => exact ⟨rfl, alike⟩
  | some certificateId =>
    exact (timeless_fetchChain session request pickupId certificateId).echo alike

end Manager

end Issuance
