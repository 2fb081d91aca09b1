import Mathlib.Algebra.Order.BigOperators.Group.List
import Issuance.Polling
import Issuance.Proofs.Double
import Issuance.Proofs.Resolution

/-! A wait for issuance ends with the first reading that settles it, and as that reading says. -/

namespace Issuance

/-- With a reply left, a call takes it, and is then one call on. -/
theorem Dialogue.called_eq {dialogue : Dialogue} {arrival : Arrival} {rest : List Arrival}
    (next : dialogue.arrivals = arrival :: rest) (call : Call) :
    ∃ log, dialogue.called call = { dialogue with
      arrivals := rest, clock := dialogue.clock + arrival.delay,
      sent := dialogue.sent ++ [call], log } := by
  refine ⟨(dialogue.called call).log, ?_⟩
  -- Whether the reply is a response makes a difference to the log alone.
  rcases dialogue with ⟨arrivals, _, _, _, _, _⟩
  subst next
  rcases arrival with ⟨_, reply⟩
  cases reply <;> rfl

namespace Polling

/-- What one read of the status gives, and the clock when it does. -/
structure Reading where
  status : Except Stop RequestStatus
  clock : Double

/-- What a read of the status gives if it is made at a time and answered by a reply. -/
def Reading.of (clock : Double) (arrival : Arrival) : Reading where
  status := arrival.reply.learned fun response =>
    response.decode RequestStatus.check "certificate request status"
  clock := clock + arrival.delay

/-- The readings that replies lead to, with the interval between each and the next read. -/
def readings (interval : Double) : Double → List Arrival → List Reading
  | _, [] => []
  | clock, arrival :: rest =>
    .of clock arrival :: readings interval ((Reading.of clock arrival).clock + interval) rest

/-- There is a reading for every reply. -/
theorem length_readings (interval clock : Double) (arrivals : List Arrival) :
    (readings interval clock arrivals).length = arrivals.length := by
  induction arrivals generalizing clock with
  | nil => rfl
  -- The rest is read from a later point in time, which makes no difference to its length.
  | cons arrival rest ih => rw [readings, List.length_cons, ih, List.length_cons]

namespace Reading

/-- A reading is final if its read failed or its status is no longer in flight. -/
def Final (reading : Reading) : Prop :=
  match reading.status with
  | .error _ => True
  | .ok status => status.state.inFlight = false

/-- Whether the clock of a reading leaves no time for another one. -/
def Late (timeout start : Double) (reading : Reading) : Prop :=
  timeout.isZero = true ∨ timeout.le (reading.clock - start) = true

instance (timeout start : Double) (reading : Reading) : Decidable (Late timeout start reading) :=
  inferInstanceAs (Decidable (_ ∨ _))

instance (reading : Reading) : Decidable reading.Final :=
  match reading with
  | ⟨.error _, _⟩ => .isTrue trivial
  | ⟨.ok status, _⟩ => inferInstanceAs (Decidable (status.state.inFlight = false))

/-- What the reads come to if this reading is the last: an issued status, or what is wrong. -/
def concluded (requestId : String) (timeout : Double) (reading : Reading) :
    Except Stop RequestStatus :=
  match reading.status with
  | .error stop => .error stop
  | .ok status =>
    match status.state with
    | .issued => .ok status
    | .failed => .error (.failed (.issuanceFailed requestId status))
    | .requested | .pending =>
      if timeout.isZero then .error (.failed (.pending requestId (some status.state.word)))
      else .error (.failed (.timedOut requestId timeout))

/--
What a wait comes to if this reading is the last.

An issued status counts by its certificate, if there is one.
-/
def verdict (requestId : String) (timeout : Double) (reading : Reading) :
    Except Stop (Option String) :=
  match reading.concluded requestId timeout with
  | .error stop => .error stop
  | .ok status =>
    if status.certificateId = "" then .error (.failed (.nothingIssued requestId))
    else .ok (some status.certificateId)

/-- What a single look at the status makes of this reading. -/
def observed (requestId : String) (timeout : Double) (reading : Reading) :
    Except Stop RequestStatus :=
  reading.status.bind fun status =>
    if status.state = .failed then .error (.failed (.issuanceFailed requestId status))
    else if status.state.inFlight && timeout.isZero then
      .error (.failed (.pending requestId (some status.state.word)))
    else .ok status

/-- A look ends the wait at once, or shows a final status, or leaves the rest to the clock. -/
theorem observed_cases (requestId : String) (timeout start : Double) (reading : Reading) :
    (∃ stop, reading.observed requestId timeout = .error stop ∧
      reading.concluded requestId timeout = .error stop ∧
      (reading.Final ∨ reading.Late timeout start)) ∨
    (∃ status, reading.observed requestId timeout = .ok status ∧ status.state.inFlight = false ∧
      reading.concluded requestId timeout = .ok status ∧ reading.Final) ∨
    (∃ status, reading.observed requestId timeout = .ok status ∧ status.state.inFlight = true ∧
      reading.concluded requestId timeout = .error (.failed (.timedOut requestId timeout)) ∧
      ¬ reading.Final ∧
      (reading.Late timeout start ↔ timeout.le (reading.clock - start) = true)) := by
  unfold observed concluded Final Late
  rcases reading with ⟨stop | status, clock⟩
  -- A read that fails ends the wait, and only the others have a status to look at.
  · exact .inl ⟨stop, rfl, rfl, .inl trivial⟩
  · cases state : status.state with
    | issued =>
      exact .inr (.inl ⟨status, by simp [Except.bind, state, IssuanceState.inFlight],
        by simp [state, IssuanceState.inFlight], by simp [state],
        by simp [state, IssuanceState.inFlight]⟩)
    | failed =>
      exact .inl ⟨.failed (.issuanceFailed requestId status), by simp [Except.bind, state],
        by simp [state],
        .inl (by simp [state, IssuanceState.inFlight])⟩
    | requested | pending =>
      -- Only a request in flight is judged by the time there is.
      by_cases zero : timeout.isZero
      · exact .inl ⟨.failed (.pending requestId (some status.state.word)),
          by simp [Except.bind, state, IssuanceState.inFlight, zero], by simp [state, zero],
          .inr (.inl zero)⟩
      · exact .inr (.inr ⟨status, by simp [Except.bind, state, zero],
          by simp [state, IssuanceState.inFlight], by simp [state, zero],
          by simp [state, IssuanceState.inFlight], by simp [zero]⟩)

end Reading

/-- The first of the readings that is final or, by some measure, late. -/
structure FirstSettled (late : Nat → Reading → Prop) (all : List Reading) (index : Nat)
    (reading : Reading) : Prop where
  taken : all[index]? = some reading
  settled : reading.Final ∨ late index reading
  unsettled : ∀ before < index, ∀ earlier, all[before]? = some earlier →
    ¬ earlier.Final ∧ ¬ late before earlier

/-- If the first reading settles nothing, the rest of them has the same one that does. -/
theorem FirstSettled.tail {late : Reading → Prop} {first reading : Reading} {others : List Reading}
    {index : Nat} (settled : FirstSettled (fun _ => late) (first :: others) (index + 1) reading) :
    FirstSettled (fun _ => late) others index reading where
  taken := settled.taken
  settled := settled.settled
  -- Among all readings, each of the others is one place further on.
  unsettled before early := settled.unsettled (before + 1) (by omega)

section Reads

variable (sleeper : Sleeper) (session : Session) (requestId : String)
  {timeout interval start : Double} {dialogue : Dialogue} {arrival : Arrival} {rest : List Arrival}
  (reads : Nat)

/-- Looking at the status once takes one call and makes of its reading what there is to make. -/
theorem hold_observe (timeout : Double) (next : dialogue.arrivals = arrival :: rest)
    {reading : Reading}
    (taken : (readings interval dialogue.clock dialogue.arrivals)[0]? = some reading) :
    ∃ log, (observe session requestId timeout).hold dialogue =
      (reading.observed requestId timeout, { dialogue with
        arrivals := rest, clock := reading.clock,
        sent := dialogue.sent ++ [.status session requestId], log }) := by
  have read := Client.hold_status session dialogue requestId
  obtain ⟨log, called⟩ := Dialogue.called_eq next (.status session requestId)
  rw [called, Dialogue.learns_cons next] at read
  rw [next, readings, List.getElem?_cons_zero, Option.some.injEq] at taken
  subst taken
  -- The look is the read and a choice among its outcomes, which nothing else depends on.
  unfold observe Reading.observed Reading.of
  cases learned : arrival.reply.learned fun response =>
      response.decode RequestStatus.check "certificate request status" with
  | error stop =>
    rw [learned] at read
    exact ⟨log, Run.hold_bind_error read⟩
  | ok status =>
    rw [learned] at read
    rw [Run.hold_bind_ok read]
    -- A request that has failed is told to the log, and one in flight may not be waited for.
    by_cases failed : status.state = .failed
    · simp only [if_pos failed, Except.bind]
      exact ⟨_, rfl⟩
    · refine ⟨log, ?_⟩
      simp only [if_neg failed, Except.bind]
      split <;> rfl

/-- A wait whose next reading settles it is over. -/
theorem hold_readUntilFinal_settled (next : dialogue.arrivals = arrival :: rest) {reading : Reading}
    (taken : (readings interval dialogue.clock dialogue.arrivals)[0]? = some reading)
    (settled : reading.Final ∨ reading.Late timeout start) :
    ∃ log, (readUntilFinal sleeper session requestId timeout interval start (reads + 1)).hold dialogue =
      (reading.concluded requestId timeout, { dialogue with
        arrivals := rest, clock := reading.clock,
        sent := dialogue.sent ++ [.status session requestId], log }) := by
  obtain ⟨log, observed⟩ := hold_observe session requestId timeout next taken
  unfold readUntilFinal
  rcases reading.observed_cases requestId timeout start with
    ⟨stop, outcome, concluded, _⟩ | ⟨status, outcome, final, concluded, _⟩ |
    ⟨status, outcome, flying, concluded, unfinished, late⟩
  · -- The look has ended the wait.
    rw [outcome] at observed
    rw [concluded]
    exact ⟨log, Run.hold_bind_error observed⟩
  · -- The status is final, and is what the reads come to.
    rw [outcome] at observed
    rw [concluded, Run.hold_bind_ok observed, final]
    exact ⟨log, rfl⟩
  · -- The request is in flight, so that it is the time that must have settled the wait.
    rw [outcome] at observed
    have spent := late.mp (settled.resolve_left unfinished)
    rw [concluded, Run.hold_bind_ok observed]
    simp only [flying, Bool.not_true, Bool.false_eq_true, if_false]
    rw [Run.hold_bind_ok (Run.hold_get _)]
    simp only [spent, if_true]
    exact ⟨_, rfl⟩

/-- A wait whose next reading settles nothing goes to sleep, and goes on behind that. -/
theorem hold_readUntilFinal_unsettled (next : dialogue.arrivals = arrival :: rest)
    {reading : Reading}
    (taken : (readings interval dialogue.clock dialogue.arrivals)[0]? = some reading)
    (unfinished : ¬ reading.Final) (early : ¬ reading.Late timeout start) :
    ∃ log, (readUntilFinal sleeper session requestId timeout interval start (reads + 1)).hold dialogue =
      (Run.sleep sleeper interval >>= fun _ =>
        readUntilFinal sleeper session requestId timeout interval start reads).hold { dialogue with
          arrivals := rest, clock := reading.clock,
          sent := dialogue.sent ++ [.status session requestId], log } := by
  obtain ⟨log, observed⟩ := hold_observe session requestId timeout next taken
  rcases reading.observed_cases requestId timeout start with
    ⟨_, _, _, settled⟩ | ⟨_, _, _, _, final⟩ | ⟨status, outcome, flying, _, _, late⟩
  -- Neither an end nor a final status leaves the wait unsettled.
  · exact absurd settled (not_or.mpr ⟨unfinished, early⟩)
  · exact absurd final unfinished
  · rw [outcome] at observed
    refine ⟨log, ?_⟩
    have time : timeout.le (reading.clock - start) = false :=
      Bool.eq_false_iff.mpr fun spent => early (late.mpr spent)
    rw [readUntilFinal, Run.hold_bind_ok observed]
    simp only [flying, Bool.not_true, Bool.false_eq_true, if_false]
    rw [Run.hold_bind_ok (Run.hold_get _)]
    simp only [time, Bool.false_eq_true, if_false]

/-- The reads of a wait go on up to the first that settles it, with a sleep between any two. -/
theorem hold_readUntilFinal {index : Nat} {reading : Reading}
    (sleeps : 0 < index → sleeper interval = none) :
    ∀ (dialogue : Dialogue) (reads : Nat), index < reads →
      FirstSettled (fun _ => Reading.Late timeout start)
        (readings interval dialogue.clock dialogue.arrivals) index reading →
      ∃ log, (readUntilFinal sleeper session requestId timeout interval start reads).hold dialogue =
        (reading.concluded requestId timeout, { dialogue with
          arrivals := dialogue.arrivals.drop (index + 1), clock := reading.clock,
          sent := dialogue.sent ++ List.replicate (index + 1) (.status session requestId),
          sleeps := dialogue.sleeps ++ List.replicate index interval, log }) := by
  -- Each reading before the one that settles takes one reply, one call and one sleep.
  induction index with
  | zero =>
    intro dialogue reads enough first
    obtain ⟨reads, rfl⟩ := Nat.exists_eq_succ_of_ne_zero (Nat.ne_of_gt enough)
    cases next : dialogue.arrivals with
    -- A reading has to come from a reply.
    | nil => simpa [next, readings] using first.taken
    | cons arrival rest =>
      obtain ⟨log, held⟩ :=
        hold_readUntilFinal_settled sleeper session requestId reads next first.taken first.settled
      exact ⟨log, by simpa using held⟩
  | succ index ih =>
    intro dialogue reads enough first
    obtain ⟨reads, rfl⟩ := Nat.exists_eq_succ_of_ne_zero (Nat.ne_of_gt (Nat.zero_lt_of_lt enough))
    cases next : dialogue.arrivals with
    | nil => simpa [next, readings] using first.taken
    | cons arrival rest =>
      have shape := congrArg (readings interval dialogue.clock) next
      have taken : (readings interval dialogue.clock dialogue.arrivals)[0]? =
          some (.of dialogue.clock arrival) := by
        rw [shape]
        rfl
      -- The first reading settles nothing, and the rest is the claim for what is left.
      obtain ⟨unfinished, early⟩ := first.unsettled 0 (Nat.succ_pos index) _ taken
      obtain ⟨log, step⟩ :=
        hold_readUntilFinal_unsettled sleeper session requestId reads next taken unfinished early
      rw [Run.hold_bind_ok (Run.hold_sleep_taken (sleeps index.succ_pos) _)] at step
      rw [shape] at first
      obtain ⟨log, held⟩ := ih (fun _ => sleeps index.succ_pos) { dialogue with
          arrivals := rest, clock := (Reading.of dialogue.clock arrival).clock + interval,
          sent := dialogue.sent ++ [.status session requestId],
          sleeps := dialogue.sleeps ++ [interval], log }
        reads (Nat.lt_of_succ_lt_succ enough) first.tail
      refine ⟨log, step.trans (held.trans ?_)⟩
      -- One more call, sleep and reply is counted on both sides.
      simp [List.replicate_succ]

/-- What is issued counts by its certificate. -/
theorem hold_issuedCertificate (status : RequestStatus) (dialogue : Dialogue) :
    ∃ log, (issuedCertificate requestId status).hold dialogue =
      (if status.certificateId = "" then .error (.failed (.nothingIssued requestId))
        else .ok status.certificateId, { dialogue with log }) := by
  unfold issuedCertificate
  -- Issued without a certificate is a failure, and that is not logged.
  by_cases empty : status.certificateId = ""
  · simp only [String.isEmpty_iff.mpr empty, if_true, if_pos empty]
    exact ⟨dialogue.log, rfl⟩
  · simp only [String.isEmpty_eq_false_iff.mpr empty, Bool.false_eq_true, if_false, if_neg empty]
    exact ⟨_, rfl⟩

end Reads

/-- Looking at the status starts with reading it. -/
theorem begins_observe (session : Session) (requestId : String) (timeout : Double) :
    (observe session requestId timeout).Begins (.status session requestId) := by
  apply Run.Begins.bind (.of_call fun dialogue => Client.hold_status session dialogue requestId)
  -- What is made of the status calls nothing.
  intro status
  split
  · exact (Run.Extends.log _ _ _).bind fun _ => .fail _
  · split
    · exact .fail _
    · exact .pure _

/-- The reads of a wait start with reading the status, if the reads after it take nothing back. -/
theorem begins_readUntilFinal {sleeper : Sleeper} {session : Session} {requestId : String}
    {timeout interval start : Double} {reads : Nat}
    (rest : (readUntilFinal sleeper session requestId timeout interval start reads).Extends) :
    (readUntilFinal sleeper session requestId timeout interval start (reads + 1)).Begins
      (.status session requestId) := by
  apply (begins_observe session requestId timeout).bind
  -- Behind the first look there is an end, or the clock is looked at.
  intro status
  split
  · exact .pure _
  · apply Run.Extends.bind (.of_silent fun _ => rfl)
    -- The clock that is looked at decides between an end and a sleep before the other reads.
    intro dialogue
    split
    · exact (Run.Extends.log _ _ _).bind fun _ => .fail _
    · exact (Run.Extends.sleep _ _).bind fun _ => rest

/-- The reads of a wait take nothing back. -/
theorem extends_readUntilFinal (sleeper : Sleeper) (session : Session) (requestId : String)
    (timeout interval start : Double) (reads : Nat) :
    (readUntilFinal sleeper session requestId timeout interval start reads).Extends := by
  induction reads with
  | zero => exact .of_silent fun _ => rfl
  | succ reads ih => exact (begins_readUntilFinal ih).toExtends

/-- What is issued is told without a call. -/
theorem extends_issuedCertificate (requestId : String) (status : RequestStatus) :
    (issuedCertificate requestId status).Extends := by
  unfold issuedCertificate
  split
  · exact .fail _
  · exact (Run.Extends.log _ _ _).bind fun _ => .pure _

/-- A wait for a request is its reads, and a look at what they come to. -/
theorem hold_awaitIssuance (sleeper : Sleeper) (session : Session) {requestId : String}
    (filled : requestId ≠ "") (timeout interval : Double) (dialogue : Dialogue) :
    (awaitIssuance sleeper (some session) interval (some requestId) timeout).hold dialogue =
      (readUntilFinal sleeper session requestId timeout interval dialogue.clock
        (dialogue.arrivals.length + 1) >>= fun status =>
          some <$> issuedCertificate requestId status).hold dialogue := by
  unfold awaitIssuance
  rw [filled?_eq_some.mpr ⟨rfl, filled⟩]
  simp only
  rw [Run.hold_bind_ok (Run.hold_present session dialogue),
    Run.hold_bind_ok (Run.hold_get dialogue)]
  simp only [map_eq_pure_bind]

/-- A wait for a request starts with reading its status. -/
theorem begins_awaitIssuance (sleeper : Sleeper) (session : Session) (interval : Double)
    {requestId : String} (filled : requestId ≠ "") (timeout : Double) :
    (awaitIssuance sleeper (some session) interval (some requestId) timeout).Begins
      (.status session requestId) := by
  intro dialogue
  rw [hold_awaitIssuance sleeper session filled]
  simp only [map_eq_pure_bind]
  -- The reads know by now where the clock stands and how many replies there can be.
  have reads := begins_readUntilFinal (extends_readUntilFinal sleeper session requestId timeout
    interval dialogue.clock dialogue.arrivals.length)
  have goesOn (status : RequestStatus) := extends_issuedCertificate requestId status
  exact reads.bind (fun status => (goesOn status).bind fun _ => .pure _) dialogue

/--
A wait ends with a reading, and with what that reading says.

It has made one call for each reading so far, and has slept once between any two, and no more.
-/
def EndsWith (sleeper : Sleeper) (session : Session) (requestId : String) (timeout interval : Double)
    (dialogue : Dialogue) (index : Nat) (reading : Reading) : Prop :=
  ∃ log, (awaitIssuance sleeper (some session) interval (some requestId) timeout).hold dialogue =
    (reading.verdict requestId timeout, { dialogue with
      arrivals := dialogue.arrivals.drop (index + 1), clock := reading.clock,
      sent := dialogue.sent ++ List.replicate (index + 1) (.status session requestId),
      sleeps := dialogue.sleeps ++ List.replicate index interval, log })

/-- A wait ends with the first reading that is final or late by the clock, if its sleeps are taken. -/
theorem endsWith_of_firstSettled {sleeper : Sleeper} (session : Session) {requestId : String}
    (filled : requestId ≠ "") {timeout interval : Double} {dialogue : Dialogue} {index : Nat}
    {reading : Reading} (sleeps : 0 < index → sleeper interval = none)
    (first : FirstSettled (fun _ => Reading.Late timeout dialogue.clock)
      (readings interval dialogue.clock dialogue.arrivals) index reading) :
    EndsWith sleeper session requestId timeout interval dialogue index reading := by
  -- There are as many reads to be made as there are replies, and one more.
  have taken := (List.getElem?_eq_some_iff.mp first.taken).1
  rw [length_readings] at taken
  obtain ⟨log, held⟩ := hold_readUntilFinal sleeper session requestId sleeps dialogue
    (dialogue.arrivals.length + 1) (Nat.lt_succ_of_lt taken) first
  unfold EndsWith
  rw [hold_awaitIssuance sleeper session filled]
  unfold Reading.verdict
  -- Only a status that is issued is looked at once more, for its certificate.
  cases concluded : reading.concluded requestId timeout with
  | error stop =>
    rw [concluded] at held
    exact ⟨log, Run.hold_bind_error held⟩
  | ok status =>
    rw [concluded] at held
    rw [Run.hold_bind_ok held]
    obtain ⟨log, issued⟩ := hold_issuedCertificate requestId status { dialogue with
      arrivals := dialogue.arrivals.drop (index + 1), clock := reading.clock,
      sent := dialogue.sent ++ List.replicate (index + 1) (.status session requestId),
      sleeps := dialogue.sleeps ++ List.replicate index interval, log }
    refine ⟨log, ?_⟩
    rw [Run.hold_map, issued]
    -- Without a certificate the wait fails, and with one that is what it gives.
    by_cases empty : status.certificateId = ""
    · simp only [if_pos empty]
      rfl
    · simp only [if_neg empty]
      rfl

/-- A wait ends with the first sleep that is refused, behind a reading that settles nothing. -/
theorem awaitIssuance_of_refused {sleeper : Sleeper} (session : Session) {requestId : String}
    (filled : requestId ≠ "") {timeout interval : Double} {dialogue : Dialogue} {lapse : Lapse}
    (refused : sleeper interval = some lapse) {reading : Reading}
    (taken : (readings interval dialogue.clock dialogue.arrivals)[0]? = some reading)
    (unfinished : ¬ reading.Final) (early : ¬ reading.Late timeout dialogue.clock) :
    ∃ log, (awaitIssuance sleeper (some session) interval (some requestId) timeout).hold dialogue =
      (.error (.lapsed lapse), { dialogue with
        arrivals := dialogue.arrivals.tail, clock := reading.clock,
        sent := dialogue.sent ++ [.status session requestId], log }) := by
  cases next : dialogue.arrivals with
  -- A reading has to come from a reply.
  | nil => simp [next, readings] at taken
  | cons arrival rest =>
    obtain ⟨log, step⟩ := hold_readUntilFinal_unsettled sleeper session requestId
      dialogue.arrivals.length next taken unfinished early
    rw [Run.hold_bind_error (Run.hold_sleep_refused refused _)] at step
    exact ⟨log, (hold_awaitIssuance sleeper session filled timeout interval dialogue).trans
      (Run.hold_bind_error step)⟩

/--
The seconds from the start of a wait to a reading.

Every reply up to it takes its delay, and every sleep before it takes the interval.
-/
def elapsed (interval : ℚ) (delays : List ℚ) (index : Nat) : ℚ :=
  (delays.take (index + 1)).sum + index * interval

/-- A wait in exact arithmetic: up to a reading, its clock shows the seconds that have elapsed. -/
structure ExactUpTo (timeout interval : Double) (dialogue : Dialogue) (last : Nat)
    (limit pause : ℚ) (delays : List ℚ) : Prop where
  isLimit : timeout.value? = some limit
  isPause : interval.value? = some pause
  areDelays : (dialogue.arrivals.take (last + 1)).map (·.delay.value?) = delays.map some
  pauseNonneg : 0 ≤ pause
  delaysNonneg : ∀ delay ∈ delays, 0 ≤ delay
  unrounded : ∀ index ≤ last, ∀ reading,
    (readings interval dialogue.clock dialogue.arrivals)[index]? = some reading →
      (reading.clock - dialogue.clock).value? = some (elapsed pause delays index)

/-- The pauses before a reading are part of the time that has elapsed. -/
theorem mul_pause_le_elapsed {pause : ℚ} {delays : List ℚ} (nonneg : ∀ delay ∈ delays, 0 ≤ delay)
    (index : Nat) : index * pause ≤ elapsed pause delays index := by
  -- What is left beside the pauses are the delays.
  have sum : 0 ≤ (delays.take (index + 1)).sum :=
    List.sum_nonneg fun delay member => nonneg delay (List.mem_of_mem_take member)
  unfold elapsed
  simpa using sum

/-- In exact arithmetic a reading is late by the clock exactly if the timeout has elapsed. -/
theorem ExactUpTo.late_iff {timeout interval : Double} {dialogue : Dialogue} {last index : Nat}
    {limit pause : ℚ} {delays : List ℚ} {reading : Reading}
    (exact : ExactUpTo timeout interval dialogue last limit pause delays) (early : index ≤ last)
    (taken : (readings interval dialogue.clock dialogue.arrivals)[index]? = some reading) :
    reading.Late timeout dialogue.clock ↔ limit ≤ elapsed pause delays index := by
  have shown := exact.unrounded index early reading taken
  have nonneg : 0 ≤ elapsed pause delays index :=
    (mul_nonneg (Nat.cast_nonneg index) exact.pauseNonneg).trans
      (mul_pause_le_elapsed exact.delaysNonneg index)
  unfold Reading.Late
  -- The tests on doubles are tests on the numbers they stand for.
  rw [Double.isZero_iff_of_value exact.isLimit, Double.le_iff_of_value exact.isLimit shown]
  -- A timeout of zero has always elapsed.
  constructor
  · rintro (rfl | spent)
    · exact nonneg
    · exact spent
  · exact Or.inr

/--
A wait ends with the first reading that is final or late, and as that reading says.

In exact arithmetic a reading is late if the seconds up to it are those of the timeout, or more.
Up to the reading before it, neither they nor the pauses among them have come to that.
A sleeper that refuses the interval ends the wait where it would sleep first, behind one reading.
-/
theorem awaitIssuance_endsWith_firstSettled (sleeper : Sleeper) (session : Session)
    {requestId : String} (filled : requestId ≠ "") (timeout interval : Double) (dialogue : Dialogue)
    (index : Nat) (reading : Reading) :
    let all := readings interval dialogue.clock dialogue.arrivals
    ((0 < index → sleeper interval = none) →
      (FirstSettled (fun _ => Reading.Late timeout dialogue.clock) all index reading →
        EndsWith sleeper session requestId timeout interval dialogue index reading) ∧
      ∀ limit pause delays, ExactUpTo timeout interval dialogue index limit pause delays →
        FirstSettled (fun place _ => limit ≤ elapsed pause delays place) all index reading →
          EndsWith sleeper session requestId timeout interval dialogue index reading ∧
            ∀ before < index, before * pause ≤ elapsed pause delays before ∧
              elapsed pause delays before < limit) ∧
    ∀ lapse first, sleeper interval = some lapse → all[0]? = some first →
      ¬ first.Final → ¬ first.Late timeout dialogue.clock →
        ∃ log, (awaitIssuance sleeper (some session) interval (some requestId) timeout).hold dialogue =
          (.error (.lapsed lapse), { dialogue with
            arrivals := dialogue.arrivals.tail, clock := first.clock,
            sent := dialogue.sent ++ [.status session requestId], log }) := by
  intro all
  refine ⟨fun sleeps => ⟨endsWith_of_firstSettled session filled sleeps,
    fun limit pause delays exact first => ⟨?_, ?_⟩⟩, fun lapse first refused taken unfinished early =>
      awaitIssuance_of_refused session filled refused taken unfinished early⟩
  · -- The two measures of being late agree on all the readings that matter.
    apply endsWith_of_firstSettled session filled sleeps
    constructor
    · exact first.taken
    · exact first.settled.imp_right (exact.late_iff le_rfl first.taken).mpr
    · intro before early earlier taken
      obtain ⟨unfinished, time⟩ := first.unsettled before early earlier taken
      exact ⟨unfinished, fun late => time ((exact.late_iff early.le taken).mp late)⟩
  · -- An earlier reading is not late, so that there was time for the pauses before it.
    intro before early
    have reached := (List.getElem?_eq_some_iff.mp first.taken).1
    have taken := List.getElem?_eq_getElem (early.trans reached)
    exact ⟨mul_pause_le_elapsed exact.delaysNonneg before,
      not_le.mp (first.unsettled before early _ taken).2⟩

/-- A reply, after one second, that a request is pending. -/
def pendingReply : Arrival where
  delay := .ofInt 1
  reply := .response ⟨200, "OK", Utf8.encode "\x7b\"status\":\"PENDING\"\x7d"⟩

/-- Three seconds are used up by two replies that a request is pending, two seconds apart. -/
theorem awaitIssuance_endsWith_secondPending :
    let session : Session := ⟨"key", {}⟩
    let dialogue : Dialogue := { arrivals := [pendingReply, pendingReply] }
    let second := Reading.of (.ofInt 3) pendingReply
    EndsWith .system session "7214" (.ofInt 3) (.ofInt 2) dialogue 1 second ∧
      ∀ before < 1, before * 2 ≤ elapsed 2 [1, 1] before ∧ elapsed 2 [1, 1] before < 3 := by
  intro session dialogue second
  -- The second read is made one second and a pause of two behind the start.
  have pause : (Reading.of .zero pendingReply).clock + .ofInt 2 = .ofInt 3 := by decide +kernel
  have shape : readings (.ofInt 2) dialogue.clock dialogue.arrivals =
      [.of .zero pendingReply, second] := by
    simp only [dialogue, readings, pause, second]
  -- Whole seconds are represented without rounding.
  have exact : ExactUpTo (.ofInt 3) (.ofInt 2) dialogue 1 3 2 [1, 1] := by
    constructor <;> decide +kernel
  have filled : "7214" ≠ "" := by decide
  -- A pause of two seconds is one that the platform takes.
  have sleeps : Sleeper.system (.ofInt 2) = none := by decide +kernel
  refine ((awaitIssuance_endsWith_firstSettled .system session filled (.ofInt 3) (.ofInt 2)
    dialogue 1 second).1 fun _ => sleeps).2 3 2 [1, 1] exact ?_
  rw [shape]
  -- The second reading is late, and the first is neither final nor late.
  refine ⟨rfl, .inr (by decide +kernel), fun before early reading taken => ?_⟩
  obtain rfl : before = 0 := by omega
  simp only [List.getElem?_cons_zero, Option.some.injEq] at taken
  subst taken
  exact ⟨by decide +kernel, by decide +kernel⟩

end Polling

end Issuance
