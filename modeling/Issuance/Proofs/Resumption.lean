import Issuance.Proofs.Pickup
import Issuance.Proofs.Replay

/-! The ways to retrieve a certificate agree, and what is left pending is taken up where it was left. -/

namespace Issuance

/-- A failure that tells the caller to retrieve a request again, later on. -/
inductive Failure.Resumes (pickupId : String) : Failure → Prop
  | pending (status : Option String) : Resumes pickupId (.pending pickupId status)
  | timedOut (timeout : Double) : Resumes pickupId (.timedOut pickupId timeout)

namespace Failure

variable {failure : Failure} {pickupId : String}

theorem Resumes.not_ofCall (resumes : failure.Resumes pickupId) : ¬ failure.OfCall := by
  intro calling
  cases resumes <;> cases calling

theorem Resumes.not_ofResolution (resumes : failure.Resumes pickupId) :
    ¬ failure.OfResolution := by
  intro resolving
  cases resolving with
  | call calling => exact resumes.not_ofCall calling
  | ambiguous => cases resumes

/-- The retrieval of a submitted request tells to retrieve this one again. -/
theorem Resumes.eq_of_ofRetrieval {polled : String} (resumes : failure.Resumes pickupId)
    (retrieving : failure.OfRetrieval polled) : pickupId = polled := by
  cases retrieving with
  | call calling => exact absurd calling resumes.not_ofCall
  | pending | timedOut =>
    cases resumes
    rfl
  | issuanceFailed | mismatch => cases resumes

end Failure

namespace Polling

/-- With no time to wait, the first reply tells of a status in flight, by this word. -/
def FoundInFlight (timeout : Double) (arrivals : List Arrival) (word : Option String) : Prop :=
  timeout.isZero = true ∧ ∃ arrival rest status, arrivals = arrival :: rest ∧
    arrival.reply.Tells RequestStatus.check 200 status ∧ status.state.inFlight = true ∧
      word = some status.state.word

/-- What a status read of a wait fails for is the call's own. -/
theorem ofCall_of_reading {clock : Double} {arrival : Arrival} {failure : Failure}
    (failed : (Reading.of clock arrival).status = .error (.failed failure)) : failure.OfCall := by
  have learned : ({ arrivals := [arrival] } : Dialogue).learns (fun response =>
      response.decode RequestStatus.check "certificate request status") = .error (.failed failure) :=
    failed
  rcases Dialogue.ofCall_of_learns learned with calling | ⟨_, _, response, _, _, refused⟩
  · exact calling
  · exact Response.ofCall_of_decode refused

/-- Without time to wait, a reading is pending exactly if it shows a status in flight. -/
theorem verdict_pending_iff {requestId : String} {timeout clock : Double} {arrival : Arrival}
    {word : Option String} (impatient : timeout.isZero = true) :
    (Reading.of clock arrival).verdict requestId timeout =
        .error (.failed (.pending requestId word)) ↔
      ∃ status, arrival.reply.Tells RequestStatus.check 200 status ∧
        status.state.inFlight = true ∧ word = some status.state.word := by
  have told (status : RequestStatus) : (Reading.of clock arrival).status = .ok status ↔
      arrival.reply.Tells RequestStatus.check 200 status := Reply.learned_decode_eq_ok _
  simp only [← told]
  unfold Reading.verdict Reading.concluded
  -- What a look fails for is of its call, so that only a status can be told to be pending.
  cases learned : (Reading.of clock arrival).status with
  | error stop =>
    constructor
    · intro pending
      cases pending
      cases ofCall_of_reading learned
    · intro shown
      obtain ⟨_, shown, _⟩ := shown
      cases shown
  | ok status =>
    simp only [Except.ok.injEq, exists_eq_left']
    cases state : status.state with
    | issued =>
      -- What is issued counts by its certificate, and is in flight no more.
      by_cases empty : status.certificateId = "" <;>
        simp [empty, Failure.nothingIssued, IssuanceState.inFlight]
    | failed => simp [IssuanceState.inFlight]
    | requested | pending => simp [impatient, IssuanceState.inFlight, eq_comm]

/-- A wait without a reply to come is left unanswered. -/
theorem hold_awaitIssuance_unanswered (sleeper : Sleeper) (session : Session)
    (interval timeout : Double) {requestId : String} (filled : requestId ≠ "") {dialogue : Dialogue}
    (none : dialogue.arrivals = []) :
    ((awaitIssuance sleeper (some session) interval (some requestId) timeout).hold dialogue).1 =
      .error .unanswered := by
  have read := Client.hold_status session dialogue requestId
  rw [Dialogue.learns, none] at read
  -- The first look has no status to look at, so that the reads end with it.
  have reads : (readUntilFinal sleeper session requestId timeout interval dialogue.clock
      (dialogue.arrivals.length + 1)).hold dialogue = _ :=
    Run.hold_bind_error (Run.hold_bind_error read)
  rw [hold_awaitIssuance sleeper session filled, Run.hold_bind_error reads]

/-- A wait is told to be pending exactly if there is no time for it and its one look finds it so. -/
theorem awaitIssuance_pending_iff (sleeper : Sleeper) (session : Session)
    (interval timeout : Double) {requestId : String} (filled : requestId ≠ "") (dialogue : Dialogue)
    (word : Option String) :
    ((awaitIssuance sleeper (some session) interval (some requestId) timeout).hold dialogue).1 =
        .error (.failed (.pending requestId word)) ↔
      FoundInFlight timeout dialogue.arrivals word := by
  by_cases impatient : timeout.isZero = true
  · cases next : dialogue.arrivals with
    | nil =>
      rw [hold_awaitIssuance_unanswered sleeper session interval timeout filled next]
      constructor
      · intro pending
        cases pending
      · intro found
        obtain ⟨_, _, _, _, same, _⟩ := found
        cases same
    | cons arrival rest =>
      -- With no time to wait, the first reading settles the wait.
      have first : FirstSettled (fun _ => Reading.Late timeout dialogue.clock)
          (readings interval dialogue.clock dialogue.arrivals) 0 (.of dialogue.clock arrival) := by
        rw [next]
        exact ⟨rfl, .inr (.inl impatient), fun before early => absurd early (Nat.not_lt_zero before)⟩
      -- No time is waited before the first reading, whatever the sleeper takes.
      have sleeps : 0 < 0 → sleeper interval = none := fun later => absurd later (lt_irrefl 0)
      obtain ⟨log, held⟩ := endsWith_of_firstSettled session filled sleeps first
      rw [held, verdict_pending_iff impatient]
      constructor
      · intro shown
        obtain ⟨status, shown⟩ := shown
        exact ⟨impatient, arrival, rest, status, rfl, shown⟩
      · intro found
        obtain ⟨_, _, _, status, same, shown⟩ := found
        cases same
        exact ⟨status, shown⟩
  · constructor
    · intro pending
      obtain ⟨_, _, waiting⟩ := (failsOnly_awaitIssuance _ _ _ _ _).of_failed pending
      cases waiting with
      | call calling => cases calling
      | pending zero => exact absurd zero impatient
    · exact fun found => absurd found.1 impatient

end Polling

namespace Manager

/-- A response leaves a chain pending exactly if its status says that it is not yet signed. -/
theorem chainFrom_pending_iff {request : CertificateRequest} {pickupId : String}
    {response : Response} {word : Option String} :
    chainFrom request pickupId response = .error (.pending pickupId word) ↔
      response.status = 409 ∧ word = some IssuanceState.issued.word := by
  unfold chainFrom
  by_cases unsigned : response.status = 409
  · simp [unsigned, eq_comm]
  · rw [if_neg unsigned]
    constructor
    · intro pending
      split at pending
      · cases pending
      · -- Any other chain is read and checked, and neither of these finds a request pending.
        cases read : collected response.body with
        | error failure =>
          rw [read] at pending
          cases pending
          cases ofCall_of_collected read
        | ok collection =>
          rw [read] at pending
          simp only [Except.bind] at pending
          cases checked : Chain.verifyLeaf request collection with
          | ok => simp [checked, Except.map] at pending
          | error failure =>
            simp only [checked, Except.map, Except.error.injEq] at pending
            rw [pending] at checked
            rcases failure_of_verifyLeaf checked with calling | ⟨_, same⟩
            · cases calling
            · cases same
    · exact fun signed => absurd signed.1 unsigned

/-- Whatever tells the caller to retrieve a request again has polled that request. -/
theorem pickedUp_of_resumes (manager : Manager) {session : Session} {request : CertificateRequest}
    {arrivals : List Arrival} {failure : Failure} {pickupId : String}
    (company : session.account.company.isSome) (resumes : failure.Resumes pickupId)
    (failed : ((manager.retrieveCertificate (some session) request).on arrivals).1 =
      .error (.failed failure)) :
    filled? request.certificateId = none ∧
      filled? ((((manager.retrieveCertificate (some session) request).on
        arrivals).2.recorded).or request.pickupId) = some pickupId := by
  obtain ⟨run, comesTo, retrieved⟩ :=
    hold_retrieveCertificate_comesTo manager request company { arrivals }
  rw [Run.on_eq_hold, retrieved] at failed ⊢
  cases comesTo with
  | @certified certificateId certified =>
    -- A fetch by itself is pending in no case.
    exact absurd ((failsOnly_fetchCertificate session certificateId).of_failed failed)
      resumes.not_ofCall
  | @submitted submittedId uncertified submitted =>
    have filled := (filled?_eq_some.mp submitted).2
    obtain ⟨_, recorded⟩ := polls_retrieveSubmitted manager session request filled { arrivals }
    rw [recorded, Option.none_or, submitted, resumes.eq_of_ofRetrieval
      ((failsOnly_retrieveSubmitted session request manager submittedId).of_failed failed)]
    exact ⟨uncertified, rfl⟩
  | unnamed =>
    cases failed
    cases resumes
  | @printed thumbprint uncertified =>
    obtain ⟨_, _, astray⟩ | ⟨requestId, log, filled, _, goesOn⟩ :=
      hold_retrieveByThumbprint_recorded manager session request thumbprint { arrivals }
    · exact absurd (astray failure failed) resumes.not_ofResolution
    · rw [goesOn] at failed ⊢
      obtain ⟨_, recorded⟩ := polls_retrieveSubmitted manager session
        { request with pickupId := some requestId } filled _
      rw [recorded, Option.some_or, filled?_eq_some.mpr ⟨rfl, filled⟩,
        resumes.eq_of_ofRetrieval
          ((failsOnly_retrieveSubmitted session _ manager requestId).of_failed failed)]
      exact ⟨uncertified, rfl⟩

/-- The fetch of a chain is answered by a response that it is not yet signed. -/
def FoundUnsigned (session : Session) (request : CertificateRequest) (pickupId : String)
    (arrivals : List Arrival) (sent : List Call) : Prop :=
  ∃ fetch : ChainFetch session request pickupId arrivals sent, ∃ response,
    fetch.Answers response ∧ response.status = 409

/-- As long as the status has only been read, no fetch has been answered. -/
theorem not_foundUnsigned_of_reads {session : Session} {request : CertificateRequest}
    {pickupId : String} {arrivals : List Arrival} {reads : Nat} {sent : List Call}
    (read : sent = lookupCalls session request ++ List.replicate reads (.status session pickupId)) :
    ¬ FoundUnsigned session request pickupId arrivals sent := by
  intro found
  obtain ⟨fetch, _⟩ := found
  have fetched : .contents session fetch.status.certificateId request.chainOption.order ∈
      lookupCalls session request ++ List.replicate reads (.status session pickupId) := by
    rw [read.symm.trans fetch.calls]
    exact List.mem_append_right _ List.mem_cons_self
  exact not_fetchesChain_lookupCalls _ fetched ⟨_, _, _, rfl⟩

/-- Two fetches that the same calls tell of are made behind as many reads of the status. -/
theorem ChainFetch.reads_unique {session : Session} {request : CertificateRequest}
    {pickupId : String} {arrivals : List Arrival} {sent : List Call}
    (fetch other : ChainFetch session request pickupId arrivals sent) :
    other.reads = fetch.reads := by
  have count := congrArg List.length (other.calls.symm.trans fetch.calls)
  simp only [List.length_append, List.length_replicate, List.length_singleton] at count
  omega

/-- Once it is made, the fetch of a chain is pending exactly if its response is not yet signed. -/
theorem ChainFetch.pending_iff {session : Session} {request : CertificateRequest}
    {pickupId : String} {arrivals : List Arrival} {sent : List Call} {middle : Dialogue}
    (fetch : ChainFetch session request pickupId arrivals sent)
    (arrived : middle.arrivals = arrivals.drop ((lookupCalls session request).length + fetch.reads))
    {word : Option String} :
    middle.learns (chainFrom { request with pickupId := some pickupId } pickupId) =
        .error (.failed (.pending pickupId word)) ↔
      FoundUnsigned session request pickupId arrivals sent ∧
        word = some IssuanceState.issued.word := by
  constructor
  · intro pending
    rcases Dialogue.ofCall_of_learns pending with
      calling | ⟨arrival, rest, response, taken, answer, refused⟩
    · cases calling
    · obtain ⟨unsigned, named⟩ := chainFrom_pending_iff.mp refused
      exact ⟨⟨fetch, response, (fetch.answers_iff arrived).mpr ⟨arrival, rest, taken, answer⟩,
        unsigned⟩, named⟩
  · intro found
    obtain ⟨⟨other, response, answers, unsigned⟩, named⟩ := found
    rw [← fetch.reads_unique other] at arrived
    exact other.learns_eq_failed arrived _ answers (chainFrom_pending_iff.mpr ⟨unsigned, named⟩)

/--
The retrieval of a submitted request is pending in two cases.

Its one look at the status finds it in flight, or the chain that it fetches is not yet signed.
-/
theorem retrieveSubmitted_pending_iff (manager : Manager) {session : Session}
    {request : CertificateRequest} {pickupId : String} {arrivals : List Arrival}
    {middle : Dialogue} (filled : pickupId ≠ "") (sent : middle.sent = lookupCalls session request)
    (arrived : middle.arrivals = arrivals.drop (lookupCalls session request).length)
    (word : Option String) :
    let held := (manager.retrieveSubmitted session { request with pickupId := some pickupId }
      pickupId).hold middle
    held.1 = .error (.failed (.pending pickupId word)) ↔
      Polling.FoundInFlight request.patience
          (arrivals.drop (lookupCalls session request).length) word ∨
        FoundUnsigned session request pickupId arrivals held.2.sent ∧
          word = some IssuanceState.issued.word := by
  intro held
  obtain ⟨outcome, reads, later, wait, waited, issued⟩ := Polling.awaitIssuance_follows session
    request.patience manager.sleeper filled manager.pollInterval middle
  have pendingWait := Polling.awaitIssuance_pending_iff manager.sleeper session
    manager.pollInterval request.patience filled middle word
  rw [wait, arrived] at pendingWait
  rw [← pendingWait]
  have read : later.sent =
      lookupCalls session request ++ List.replicate reads (.status session pickupId) := by
    rw [waited.sent, sent]
  -- A wait that fails is the end of the retrieval, and otherwise the fetch decides.
  cases outcome with
  | error stop =>
    have through : held = (.error stop, later) := Run.hold_bind_error wait
    rw [through]
    simp only [not_foundUnsigned_of_reads read, false_and, or_false, Except.error.injEq]
  | ok certificate =>
    obtain ⟨status, last, certified, rfl⟩ := issued certificate rfl
    obtain ⟨log, fetched⟩ := hold_fetchChain session { request with pickupId := some pickupId }
      pickupId status.certificateId later
    have through : held = _ := (Run.hold_bind_ok wait).trans fetched
    rw [through]
    rw [arrived] at last
    let fetch : ChainFetch session request pickupId arrivals (later.called
        (.contents session status.certificateId request.chainOption.order)).sent :=
      ⟨reads, status, last, certified, by rw [Dialogue.called_sent, read]⟩
    have next : later.arrivals =
        arrivals.drop ((lookupCalls session request).length + fetch.reads) := by
      rw [waited.arrivals, arrived, List.drop_drop, List.length_replicate]
    simp only [fetch.pending_iff next, reduceCtorEq, false_or]

/--
A retrieval that a thumbprint leads to a request goes on as for a copy with the pickup id.

The copy may be retrieved at any time, as long as that makes no difference to when it is too late.
-/
theorem echo_retrieveCertificate_printed (manager : Manager) {session : Session}
    {request : CertificateRequest} {thumbprint requestId : String} {arrival : Arrival}
    {rest : List Arrival} {clock : Double} (company : session.account.company.isSome)
    (uncertified : filled? request.certificateId = none)
    (unsubmitted : filled? request.pickupId = none)
    (printed : filled? request.thumbprint = some thumbprint)
    (leads : LeadsToRequest (arrival :: rest) requestId)
    (times : Polling.lateness request.patience manager.pollInterval (.zero + arrival.delay)
        (.zero + arrival.delay) rest =
      Polling.lateness request.patience manager.pollInterval clock clock rest) :
    let held := (manager.retrieveCertificate (some session) request).on (arrival :: rest)
    let copy := (manager.retrieveCertificate (some session)
      { request with pickupId := some requestId }).hold { arrivals := rest, clock }
    held.1 = copy.1 ∧ Dialogue.Echoes [.thumbprintSearch session thumbprint] held.2 copy.2 ∧
      held.2.recorded = some requestId ∧ copy.2.recorded = none := by
  intro held copy
  have same : held = _ := hold_retrieveCertificate_printed company uncertified unsubmitted printed _
  obtain ⟨_, astray, _⟩ | ⟨led, log, filled, leadsToo, retrieved⟩ :=
    hold_retrieveByThumbprint_recorded manager session request thumbprint
      { arrivals := arrival :: rest }
  · exact absurd leads (astray requestId)
  obtain rfl : led = requestId := leadsToo.unique leads
  let picked : CertificateRequest := { request with pickupId := some led }
  have submitted : filled? picked.pickupId = some led := filled?_eq_some.mpr ⟨rfl, filled⟩
  have uncertifiedToo : filled? picked.certificateId = none := uncertified
  have copied : copy = (manager.retrieveSubmitted session picked led).hold { arrivals := rest, clock } :=
    hold_retrieveCertificate_submitted company uncertifiedToo submitted _
  rw [same, retrieved, copied]
  -- Behind the search the dialogue stands as the one of the copy, but for the clock.
  let start : Dialogue := { arrivals := arrival :: rest }
  have echoes : Dialogue.Echoes [.thumbprintSearch session thumbprint]
      { start.called (.thumbprintSearch session thumbprint) with log, recorded := some led }
      { arrivals := rest, clock } := ⟨by simp [start], by simp [start], by simp [start]⟩
  have clocked : (start.called (.thumbprintSearch session thumbprint)).clock =
      .zero + arrival.delay := by
    obtain ⟨_, called⟩ := Dialogue.called_eq (rfl : start.arrivals = arrival :: rest)
      (.thumbprintSearch session thumbprint)
    rw [called]
  rw [← clocked] at times
  obtain ⟨outcome, alike⟩ := echo_retrieveSubmitted session picked led manager echoes times
  obtain ⟨_, recorded⟩ := polls_retrieveSubmitted manager session picked filled
    { start.called (.thumbprintSearch session thumbprint) with log, recorded := some led }
  obtain ⟨_, unrecorded⟩ := polls_retrieveSubmitted manager session picked filled
    { arrivals := rest, clock }
  exact ⟨outcome, alike, recorded, unrecorded⟩

/-- By the id of a certificate there is one call, and nothing is recorded. -/
theorem on_retrieveCertificate_certified (manager : Manager) {session : Session}
    {request : CertificateRequest} {certificateId : String}
    (company : session.account.company.isSome)
    (certified : filled? request.certificateId = some certificateId) (arrivals : List Arrival) :
    let held := (manager.retrieveCertificate (some session) request).on arrivals
    held.2.sent = [.single session certificateId] ∧ held.2.recorded = none := by
  intro held
  obtain ⟨log, fetched⟩ := hold_fetchCertificate session certificateId { arrivals }
  have through : held = _ := (hold_retrieveCertificate_certified company certified _).trans fetched
  rw [through]
  exact ⟨Dialogue.called_sent _ _, Dialogue.called_recorded _ _⟩

/-- By the id of a certificate, nothing else about the request makes a difference. -/
theorem on_retrieveCertificate_congr (manager : Manager) {session : Session}
    {request other : CertificateRequest} {certificateId : String}
    (company : session.account.company.isSome)
    (certified : filled? request.certificateId = some certificateId)
    (same : other.certificateId = request.certificateId) (arrivals : List Arrival) :
    (manager.retrieveCertificate (some session) other).on arrivals =
      (manager.retrieveCertificate (some session) request).on arrivals := by
  have certifiedToo : filled? other.certificateId = some certificateId := by rw [same, certified]
  -- Either is the fetch of the one certificate.
  exact (hold_retrieveCertificate_certified company certifiedToo _).trans
    (hold_retrieveCertificate_certified company certified _).symm

/-- By a pickup id, the thumbprint makes no difference. -/
theorem on_retrieveCertificate_reprinted (manager : Manager) {session : Session}
    {request : CertificateRequest} {pickupId : String} (company : session.account.company.isSome)
    (uncertified : filled? request.certificateId = none)
    (submitted : filled? request.pickupId = some pickupId) (thumbprint : Option String)
    (arrivals : List Arrival) :
    (manager.retrieveCertificate (some session) { request with thumbprint }).on arrivals =
      (manager.retrieveCertificate (some session) request).on arrivals := by
  let other : CertificateRequest := { request with thumbprint }
  have uncertifiedToo : filled? other.certificateId = none := uncertified
  have submittedToo : filled? other.pickupId = some pickupId := submitted
  -- The retrieval of a submitted request does not look at the thumbprint.
  have retrieved : (manager.retrieveCertificate (some session) other).on arrivals =
      (manager.retrieveSubmitted session request pickupId).on arrivals :=
    hold_retrieveCertificate_submitted company uncertifiedToo submittedToo _
  exact retrieved.trans (hold_retrieveCertificate_submitted company uncertified submitted _).symm

/-- A retrieval is pending exactly if it has polled a request, and has found that to be pending. -/
theorem retrieveCertificate_pending_iff (manager : Manager) {session : Session}
    (company : session.account.company.isSome) (request : CertificateRequest)
    (arrivals : List Arrival) (pickupId : String) (word : Option String) :
    let held := (manager.retrieveCertificate (some session) request).on arrivals
    held.1 = .error (.failed (.pending pickupId word)) ↔
      filled? request.certificateId = none ∧
        filled? (held.2.recorded.or request.pickupId) = some pickupId ∧
        (Polling.FoundInFlight request.patience
            (arrivals.drop (lookupCalls session request).length) word ∨
          FoundUnsigned session request pickupId arrivals held.2.sent ∧
            word = some IssuanceState.issued.word) := by
  intro held
  have polled (uncertified : filled? request.certificateId = none)
      (pickedUp : filled? (held.2.recorded.or request.pickupId) = some pickupId) :
      held.1 = .error (.failed (.pending pickupId word)) ↔
        Polling.FoundInFlight request.patience
            (arrivals.drop (lookupCalls session request).length) word ∨
          FoundUnsigned session request pickupId arrivals held.2.sent ∧
            word = some IssuanceState.issued.word := by
    obtain ⟨middle, sent, arrived, same⟩ :=
      hold_retrieveCertificate_pickedUp manager company uncertified arrivals pickedUp
    have through : held = _ := same
    rw [through]
    exact retrieveSubmitted_pending_iff manager (filled?_eq_some.mp pickedUp).2 sent arrived word
  constructor
  · -- A failure that is pending has come from polling, so that there is a pickup id.
    intro pending
    obtain ⟨uncertified, pickedUp⟩ := pickedUp_of_resumes manager company (.pending word) pending
    exact ⟨uncertified, pickedUp, (polled uncertified pickedUp).mp pending⟩
  · intro found
    obtain ⟨uncertified, pickedUp, found⟩ := found
    exact (polled uncertified pickedUp).mpr found

/--
The ways to retrieve a certificate take precedence over one another, agree, and resume.

The id of a certificate is all that counts where there is one, and next is the pickup id.
A thumbprint leads to what a copy with the pickup id does, behind the search.
What the caller is to retrieve again is then polled without a search, by the pickup id it is told.
A request is pending if a caller without time to wait finds it in flight, or its chain unsigned.
-/
theorem retrieveCertificate_resumes (manager : Manager) {session : Session}
    (company : session.account.company.isSome) (request : CertificateRequest)
    (arrivals : List Arrival) :
    let held := (manager.retrieveCertificate (some session) request).on arrivals
    let afterwards : CertificateRequest :=
      { request with pickupId := held.2.recorded.or request.pickupId }
    (∀ certificateId, filled? request.certificateId = some certificateId →
      held.2.sent = [.single session certificateId] ∧ afterwards = request ∧
        ∀ other : CertificateRequest, other.certificateId = request.certificateId →
          (manager.retrieveCertificate (some session) other).on arrivals = held) ∧
    (∀ pickupId, filled? request.certificateId = none → filled? request.pickupId = some pickupId →
      afterwards = request ∧ ∀ thumbprint,
        (manager.retrieveCertificate (some session) { request with thumbprint }).on arrivals =
          held) ∧
    (∀ thumbprint arrival rest requestId, filled? request.certificateId = none →
      filled? request.pickupId = none → filled? request.thumbprint = some thumbprint →
      arrivals = arrival :: rest → LeadsToRequest arrivals requestId →
      ∀ clock, Polling.lateness request.patience manager.pollInterval (.zero + arrival.delay)
            (.zero + arrival.delay) rest =
          Polling.lateness request.patience manager.pollInterval clock clock rest →
        let copied : CertificateRequest := { request with pickupId := some requestId }
        let copy := (manager.retrieveCertificate (some session) copied).hold
          { arrivals := rest, clock }
        held.1 = copy.1 ∧ Dialogue.Echoes [.thumbprintSearch session thumbprint] held.2 copy.2 ∧
          afterwards = copied ∧ copy.2.recorded = none) ∧
    (∀ failure pickupId, held.1 = .error (.failed failure) → failure.Resumes pickupId →
      pickupId ≠ "" ∧ afterwards.pickupId = some pickupId ∧
        ∀ (other : Manager) (again : Session) (replies : List Arrival),
          again.account.company.isSome → Polls again pickupId
            ((other.retrieveCertificate (some again) afterwards).on replies).2.sent) ∧
    ∀ pickupId word, held.1 = .error (.failed (.pending pickupId word)) ↔
      filled? request.certificateId = none ∧ filled? afterwards.pickupId = some pickupId ∧
        (Polling.FoundInFlight request.patience
            (arrivals.drop (lookupCalls session request).length) word ∨
          FoundUnsigned session request pickupId arrivals held.2.sent ∧
            word = some IssuanceState.issued.word) := by
  intro held afterwards
  have untouched (unrecorded : held.2.recorded = none) : afterwards = request := by
    simp only [afterwards, unrecorded, Option.none_or]
  refine ⟨?_, ?_, ?_, ?_, ?_⟩
  · intro certificateId certified
    obtain ⟨sent, unrecorded⟩ :=
      on_retrieveCertificate_certified manager company certified arrivals
    exact ⟨sent, untouched unrecorded, fun other same =>
      on_retrieveCertificate_congr manager company certified same arrivals⟩
  · intro pickupId uncertified submitted
    have through : held = (manager.retrieveSubmitted session request pickupId).on arrivals :=
      hold_retrieveCertificate_submitted company uncertified submitted _
    obtain ⟨_, unrecorded⟩ := polls_retrieveSubmitted manager session request
      (filled?_eq_some.mp submitted).2 { arrivals }
    refine ⟨untouched ?_, fun thumbprint =>
      on_retrieveCertificate_reprinted manager company uncertified submitted thumbprint arrivals⟩
    rw [through]
    exact unrecorded
  · intro thumbprint arrival rest requestId uncertified unsubmitted printed next leads clock times
    subst next
    obtain ⟨outcome, alike, recorded, unrecorded⟩ := echo_retrieveCertificate_printed manager
      company uncertified unsubmitted printed leads times
    have led : held.2.recorded = some requestId := recorded
    refine ⟨outcome, alike, ?_, unrecorded⟩
    simp only [afterwards, led, Option.some_or]
  · intro failure pickupId failed resumes
    obtain ⟨uncertified, pickedUp⟩ := pickedUp_of_resumes manager company resumes failed
    obtain ⟨known, filled⟩ := filled?_eq_some.mp pickedUp
    -- The request afterwards differs from that before in its pickup id alone.
    have submitted : filled? afterwards.pickupId = some pickupId := pickedUp
    have uncertifiedToo : filled? afterwards.certificateId = none := uncertified
    exact ⟨filled, known, fun other again replies company =>
      polls_retrieveCertificate other company uncertifiedToo submitted replies⟩
  · exact retrieveCertificate_pending_iff manager company request arrivals

/-- The reply that a request is pending tells of a status in flight. -/
theorem pendingReply_tells : ∃ status,
    Polling.pendingReply.reply.Tells RequestStatus.check 200 status ∧ status.state = .pending := by
  have read : (match readBody RequestStatus.check
      (Utf8.encode "\x7b\"status\":\"PENDING\"\x7d") with
    | .valid status => status.state == .pending
    | .invalid _ => false) = true := by decide +kernel
  split at read
  · next status valid => exact ⟨status, ⟨_, rfl, rfl, valid⟩, beq_iff_eq.mp read⟩
  · cases read

/-- A request that is found pending is polled by the pickup id that the failure tells. -/
theorem retrieveCertificate_resumes_pending :
    let session : Session := ⟨"key", { company := some ⟨"co-1", "Example"⟩ }⟩
    let manager : Manager := ⟨none, .ofInt 2, .ofInt 1, "host", .system⟩
    let request : CertificateRequest := { pickupId := some "7214" }
    ((manager.retrieveCertificate (some session) request).on [Polling.pendingReply]).1 =
        .error (.failed (.pending "7214" (some "PENDING"))) ∧
      ∀ replies, Polls session "7214"
        ((manager.retrieveCertificate (some session) request).on replies).2.sent := by
  intro session manager request
  obtain ⟨_, submitted, _, resumes, pending⟩ :=
    retrieveCertificate_resumes manager (rfl : session.account.company.isSome = true) request
      [Polling.pendingReply]
  obtain ⟨status, told, waiting⟩ := pendingReply_tells
  obtain ⟨same, _⟩ := submitted "7214" (by decide) (by decide)
  have found : Polling.FoundInFlight request.patience
      ([Polling.pendingReply].drop (lookupCalls session request).length) (some "PENDING") := by
    refine ⟨by decide, Polling.pendingReply, [], status, rfl, told, ?_, ?_⟩
    · rw [waiting]
      rfl
    · rw [waiting]
      rfl
  have failed := (pending "7214" (some "PENDING")).mpr ⟨by decide, by rw [same]; decide, .inl found⟩
  obtain ⟨_, _, polls⟩ := resumes _ "7214" failed (.pending _)
  refine ⟨failed, fun replies => ?_⟩
  have again := polls manager session replies rfl
  rw [same] at again
  exact again

end Manager

end Issuance
