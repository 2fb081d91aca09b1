import Issuance.Proofs.Thumbprint

/-! No chain leaves a retrieval by pickup id unless its first certificate has the key signed for. -/

namespace Issuance

/-- A call that asks for a certificate together with its chain. -/
def Call.FetchesChain (call : Call) : Prop :=
  ∃ session certificateId order, call = .contents session certificateId order

/-- Reading a status fetches nothing. -/
theorem Call.not_fetchesChain_status (session : Session) (requestId : String) :
    ¬ (status session requestId).FetchesChain := by
  rintro ⟨other, certificateId, order, same⟩
  -- A status is read without parameters, and a chain is not.
  cases congrArg Call.parameters same

/-- Searching fetches nothing. -/
theorem Call.not_fetchesChain_thumbprintSearch (session : Session) (thumbprint : String) :
    ¬ (thumbprintSearch session thumbprint).FetchesChain := by
  rintro ⟨other, certificateId, order, same⟩
  cases congrArg Call.parameters same

/--
One dialogue follows on another by calls, each of which takes a reply if one is left.

How long is slept between them makes no difference.
-/
structure Dialogue.FollowsBy (calls : List Call) (earlier later : Dialogue) : Prop where
  sent : later.sent = earlier.sent ++ calls
  arrivals : later.arrivals = earlier.arrivals.drop calls.length
  recorded : later.recorded = earlier.recorded

namespace Dialogue.FollowsBy

variable {calls : List Call} {earlier middle later : Dialogue}

theorem refl (dialogue : Dialogue) : FollowsBy [] dialogue dialogue := ⟨by simp, rfl, rfl⟩

/-- What is reached without a sleep follows all the same. -/
theorem of_reachedBy (reached : ReachedBy calls earlier later) : FollowsBy calls earlier later :=
  ⟨reached.sent, reached.arrivals, reached.recorded⟩

/-- Calls follow on one another, whatever the log and the clocks show by then. -/
theorem trans {others : List Call} (start : FollowsBy calls earlier middle)
    (finish : FollowsBy others middle later) : FollowsBy (calls ++ others) earlier later where
  sent := by rw [finish.sent, start.sent, List.append_assoc]
  arrivals := by rw [finish.arrivals, start.arrivals, List.drop_drop, List.length_append]
  recorded := finish.recorded.trans start.recorded

/-- What is logged afterwards makes no difference to the calls. -/
theorem logged (follows : FollowsBy calls earlier later) (log : List LogEntry) :
    FollowsBy calls earlier { later with log } :=
  ⟨follows.sent, follows.arrivals, follows.recorded⟩

/-- What is slept afterwards makes no difference to the calls. -/
theorem slept (follows : FollowsBy calls earlier later) (clock : Double) (sleeps : List Double) :
    FollowsBy calls earlier { later with clock, sleeps } :=
  ⟨follows.sent, follows.arrivals, follows.recorded⟩

end Dialogue.FollowsBy

namespace Polling

/-- The last of some reads of a status has told this status, and by it a certificate is issued. -/
structure LastRead (arrivals : List Arrival) (reads : Nat) (status : RequestStatus) : Prop where
  told : ∃ before arrival, reads = before + 1 ∧ arrivals[before]? = some arrival ∧
    arrival.reply.Tells RequestStatus.check 200 status
  issued : status.state = .issued

/-- One more read before all others leaves the last one as it is. -/
theorem LastRead.succ {arrivals : List Arrival} {reads : Nat} {status : RequestStatus}
    (last : LastRead (arrivals.drop 1) reads status) : LastRead arrivals (reads + 1) status where
  told := by
    obtain ⟨before, arrival, rfl, taken, told⟩ := last.told
    rw [List.getElem?_drop, Nat.add_comm] at taken
    exact ⟨before + 1, arrival, rfl, taken, told⟩
  issued := last.issued

section Reads

variable (session : Session) (requestId : String) (timeout : Double)

/-- Looking at the status is one read, and gives what that tells unless the request has failed. -/
theorem observe_follows (dialogue : Dialogue) :
    ∃ outcome later, (observe session requestId timeout).hold dialogue = (outcome, later) ∧
      Dialogue.FollowsBy [.status session requestId] dialogue later ∧
      ∀ status, outcome = .ok status → status.state ≠ .failed ∧
        ∃ arrival, dialogue.arrivals[0]? = some arrival ∧
          arrival.reply.Tells RequestStatus.check 200 status := by
  have read := Client.hold_status session dialogue requestId
  have called := Dialogue.FollowsBy.of_reachedBy
    (Dialogue.ReachedBy.call dialogue (.status session requestId))
  unfold observe
  cases learned : dialogue.learns fun response =>
      response.decode RequestStatus.check "certificate request status" with
  | error stop =>
    rw [learned] at read
    exact ⟨_, _, Run.hold_bind_error read, called, by simp⟩
  | ok status =>
    rw [learned] at read
    rw [Run.hold_bind_ok read]
    obtain ⟨arrival, rest, next, told⟩ := (Dialogue.learns_decode_eq_ok _).mp learned
    by_cases failed : status.state = .failed
    · simp only [if_pos failed]
      exact ⟨_, _, rfl, called.logged _, by rintro _ ⟨⟩⟩
    · simp only [if_neg failed]
      -- A request in flight that may not be waited for is no value either.
      split
      · exact ⟨_, _, rfl, called, by rintro _ ⟨⟩⟩
      · refine ⟨.ok status, _, rfl, called, ?_⟩
        rintro _ ⟨⟩
        exact ⟨failed, arrival, by rw [next]; rfl, told⟩

/-- The reads of a wait are calls for the status, and they give what the last of them tells. -/
theorem readUntilFinal_follows (sleeper : Sleeper) (interval start : Double) (limit : Nat) :
    ∀ dialogue, ∃ outcome reads later,
      (readUntilFinal sleeper session requestId timeout interval start limit).hold dialogue =
        (outcome, later) ∧
      Dialogue.FollowsBy (List.replicate reads (.status session requestId)) dialogue later ∧
      ∀ status, outcome = .ok status → LastRead dialogue.arrivals reads status := by
  -- Each look that settles nothing is one more read before all those that are left.
  induction limit with
  | zero => exact fun dialogue => ⟨_, 0, dialogue, rfl, .refl dialogue, by rintro _ ⟨⟩⟩
  | succ limit ih =>
    intro dialogue
    obtain ⟨outcome, middle, observed, follows, told⟩ :=
      observe_follows session requestId timeout dialogue
    unfold readUntilFinal
    cases outcome with
    | error stop => exact ⟨_, 1, middle, Run.hold_bind_error observed, follows, by rintro _ ⟨⟩⟩
    | ok status =>
      rw [Run.hold_bind_ok observed]
      obtain ⟨succeeded, arrival, taken, told⟩ := told status rfl
      cases flying : status.state.inFlight with
      | false =>
        -- What is neither in flight nor failed is issued, and this read was the last.
        refine ⟨.ok status, 1, middle, rfl, follows, ?_⟩
        rintro _ ⟨⟩
        refine ⟨⟨0, arrival, rfl, taken, told⟩, ?_⟩
        cases state : status.state with
        | issued => rfl
        | failed => exact absurd state succeeded
        | requested | pending => simp [state, IssuanceState.inFlight] at flying
      | true =>
        simp only [Bool.not_true, Bool.false_eq_true, if_false]
        rw [Run.hold_bind_ok (Run.hold_get _)]
        by_cases late : timeout.le (middle.clock - start)
        · simp only [late, if_true]
          exact ⟨_, 1, _, rfl, follows.logged _, by rintro _ ⟨⟩⟩
        · simp only [late, Bool.false_eq_true, if_false]
          -- A sleep that is refused ends the wait, with this read as its last.
          cases refusal : sleeper interval with
          | some lapse =>
            exact ⟨_, 1, middle, Run.hold_bind_error (Run.hold_sleep_refused refusal _), follows,
              by rintro _ ⟨⟩⟩
          | none =>
            rw [Run.hold_bind_ok (Run.hold_sleep_taken refusal _)]
            -- The other reads start behind the sleep, with one reply fewer.
            obtain ⟨outcome, reads, later, held, goesOn, last⟩ := ih { middle with
              sleeps := middle.sleeps ++ [interval], clock := middle.clock + interval }
            refine ⟨outcome, reads + 1, later, held, (follows.slept _ _).trans goesOn, ?_⟩
            intro status found
            exact .succ (follows.arrivals ▸ last status found)

variable {requestId} in
/-- A wait makes calls for the status, and gives the certificate that the last of them tells of. -/
theorem awaitIssuance_follows (sleeper : Sleeper) (filled : requestId ≠ "") (interval : Double)
    (dialogue : Dialogue) :
    ∃ outcome reads later,
      (awaitIssuance sleeper (some session) interval (some requestId) timeout).hold dialogue =
        (outcome, later) ∧
      Dialogue.FollowsBy (List.replicate reads (.status session requestId)) dialogue later ∧
      ∀ issued, outcome = .ok issued → ∃ status, LastRead dialogue.arrivals reads status ∧
        status.certificateId ≠ "" ∧ issued = some status.certificateId := by
  rw [hold_awaitIssuance sleeper session filled]
  obtain ⟨outcome, reads, later, held, follows, last⟩ := readUntilFinal_follows session requestId
    timeout sleeper interval dialogue.clock (dialogue.arrivals.length + 1) dialogue
  cases outcome with
  | error stop => exact ⟨_, reads, later, Run.hold_bind_error held, follows, by rintro _ ⟨⟩⟩
  | ok status =>
    rw [Run.hold_bind_ok held, Run.hold_map]
    obtain ⟨log, issued⟩ := hold_issuedCertificate requestId status later
    rw [issued]
    -- A status that is issued may still tell of no certificate.
    by_cases empty : status.certificateId = ""
    · rw [if_pos empty]
      exact ⟨_, reads, _, rfl, follows.logged log, by rintro _ ⟨⟩⟩
    · rw [if_neg empty]
      refine ⟨_, reads, _, rfl, follows.logged log, ?_⟩
      rintro _ ⟨⟩
      exact ⟨status, last status rfl, empty, rfl⟩

end Reads

end Polling

/--
A collection is the chain in a response, in the order in which it is received.

Its first certificate reads as the one received first, and carries the key the request signs for.
-/
structure VerifiedChain (request : CertificateRequest) (csr : String) (response : Response)
    (collection : PemCollection) : Prop where
  ok : response.status = 200
  verified : ∃ leaf issuers key,
    X509.Certificate.allOfText? response.body = some (leaf :: issuers) ∧
      collection = ⟨leaf.text, issuers.map X509.Certificate.text⟩ ∧
      X509.Certificate.ofText? (Utf8.encode collection.certificate) = some leaf ∧
      request.SignsFor csr key ∧ leaf.subjectKey.key? = some key

/-- What a request signs for is up to its signing request alone. -/
theorem CertificateRequest.signsFor_pickedUp {request : CertificateRequest}
    {pickupId : Option String} {csr : String} {key : X509.PublicKey} :
    ({ request with pickupId } : CertificateRequest).SignsFor csr key ↔ request.SignsFor csr key :=
  ⟨fun signs => ⟨signs.holds, signs.filled, signs.reads⟩,
    fun signs => ⟨signs.holds, signs.filled, signs.reads⟩⟩

namespace Manager

section Fetch

variable {request : CertificateRequest} {csr pickupId : String} {response : Response}
  {leaf : X509.Certificate} {issuers : List X509.Certificate}

/-- The leaf is checked against what the request signed for before it was picked up. -/
theorem verifyLeaf_pickedUp (signing : filled? request.csr = some csr)
    (wellFormed : leaf.WellFormed) (chain : List String) :
    Chain.verifyLeaf { request with pickupId := some pickupId } ⟨leaf.text, chain⟩ = .ok () ↔
      ∃ key, request.SignsFor csr key ∧ leaf.subjectKey.key? = some key := by
  have holds : ({ request with pickupId := some pickupId } : CertificateRequest).csr = some csr :=
    (filled?_eq_some.mp signing).1
  rw [Chain.verifyLeaf_eq_ok holds (filled?_eq_some.mp signing).2 wellFormed]
  simp only [CertificateRequest.signsFor_pickedUp]

/-- A chain is made of a response exactly if the response has it, and its leaf is verified. -/
theorem chainFrom_eq_ok (signing : filled? request.csr = some csr) {collection : PemCollection} :
    chainFrom { request with pickupId := some pickupId } pickupId response = .ok collection ↔
      VerifiedChain request csr response collection := by
  constructor
  · intro made
    have ok : response.status = 200 := by
      by_contra other
      rw [chainFrom, if_pos other] at made
      -- Any other status is a failure, of one kind or another.
      split at made <;> cases made
    refine ⟨ok, ?_⟩
    cases received : PemCollection.ofText? response.body with
    | none => simp [chainFrom, ok, collected, received, Except.bind] at made
    | some found =>
      obtain ⟨leaf, issuers, all, rfl⟩ := PemCollection.ofText?_eq_some.mp received
      have wellFormed := X509.Certificate.wellFormed_of_allOfText? all _ List.mem_cons_self
      rw [chainFrom_of_received _ pickupId ok all] at made
      -- A leaf that does not pass would leave nothing to be made.
      cases checked : Chain.verifyLeaf { request with pickupId := some pickupId }
          ⟨leaf.text, issuers.map X509.Certificate.text⟩ with
      | error failure => simp [checked, Except.map] at made
      | ok =>
        obtain ⟨key, signs, carries⟩ := (verifyLeaf_pickedUp signing wellFormed _).mp checked
        rw [checked] at made
        obtain rfl := Except.ok.inj made
        exact ⟨leaf, issuers, key, all, rfl, X509.Certificate.ofText?_text wellFormed, signs,
          carries⟩
  · rintro ⟨ok, leaf, issuers, key, all, rfl, _, signs, carries⟩
    have wellFormed := X509.Certificate.wellFormed_of_allOfText? all _ List.mem_cons_self
    rw [chainFrom_of_received _ pickupId ok all,
      (verifyLeaf_pickedUp signing wellFormed _).mpr ⟨key, signs, carries⟩]
    rfl

/-- No chain is made where the signing request tells of no key. -/
theorem chainFrom_unsigned (signing : filled? request.csr = some csr) (ok : response.status = 200)
    (received : X509.Certificate.allOfText? response.body = some (leaf :: issuers))
    (unsigned : ∀ key, ¬ request.SignsFor csr key) :
    chainFrom { request with pickupId := some pickupId } pickupId response =
      .error .unreadableCsr := by
  have holds : ({ request with pickupId := some pickupId } : CertificateRequest).csr = some csr :=
    (filled?_eq_some.mp signing).1
  rw [chainFrom_of_received _ pickupId ok received,
    Chain.verifyLeaf_unsigned holds (filled?_eq_some.mp signing).2
      fun key signs => unsigned key (CertificateRequest.signsFor_pickedUp.mp signs)]
  rfl

/-- No chain is made where the leaf carries another key than the one signed for. -/
theorem chainFrom_wrongKey {key carried : X509.PublicKey} (ok : response.status = 200)
    (received : X509.Certificate.allOfText? response.body = some (leaf :: issuers))
    (signs : request.SignsFor csr key) (carries : leaf.subjectKey.key? = some carried)
    (differs : carried ≠ key) :
    chainFrom { request with pickupId := some pickupId } pickupId response =
      .error (.wrongKey (some pickupId)) := by
  have wellFormed := X509.Certificate.wellFormed_of_allOfText? received _ List.mem_cons_self
  rw [chainFrom_of_received _ pickupId ok received,
    Chain.verifyLeaf_text (CertificateRequest.signsFor_pickedUp.mpr signs) wellFormed, carries]
  simp [differs.symm, Except.map]

end Fetch

/--
What the retrieval of a submitted request comes to.

Either its wait fails, or the wait ends with a certificate, and the chain of that is fetched.
-/
inductive Submitted (session : Session) (request : CertificateRequest) (pickupId : String)
    (dialogue : Dialogue) : Except Stop PemCollection → Dialogue → Prop
  | unfetched {reads : Nat} {stop : Stop} {later : Dialogue}
      (waited : dialogue.FollowsBy (List.replicate reads (.status session pickupId)) later) :
      Submitted session request pickupId dialogue (.error stop) later
  | fetched {reads : Nat} {status : RequestStatus} {middle later : Dialogue}
      (last : Polling.LastRead dialogue.arrivals reads status)
      (certified : status.certificateId ≠ "")
      (waited : dialogue.FollowsBy (List.replicate reads (.status session pickupId)) middle)
      (fetched : middle.FollowsBy
        [.contents session status.certificateId request.chainOption.order] later) :
      Submitted session request pickupId dialogue (middle.learns (chainFrom request pickupId)) later

/-- The retrieval of a submitted request is a wait, and a fetch for what the wait ends with. -/
theorem submitted_retrieveSubmitted (manager : Manager) (session : Session)
    (request : CertificateRequest) {pickupId : String} (filled : pickupId ≠ "")
    (dialogue : Dialogue) :
    ∃ outcome later, (manager.retrieveSubmitted session request pickupId).hold dialogue =
      (outcome, later) ∧ Submitted session request pickupId dialogue outcome later := by
  obtain ⟨outcome, reads, middle, wait, waited, issued⟩ := Polling.awaitIssuance_follows session
    request.patience manager.sleeper filled manager.pollInterval dialogue
  unfold retrieveSubmitted
  cases outcome with
  | error stop => exact ⟨_, middle, Run.hold_bind_error wait, .unfetched waited⟩
  | ok certificate =>
    rw [Run.hold_bind_ok wait]
    -- A wait that has come to its end has a certificate to fetch.
    obtain ⟨status, last, certified, rfl⟩ := issued certificate rfl
    obtain ⟨log, fetched⟩ :=
      hold_fetchChain session request pickupId status.certificateId middle
    exact ⟨_, _, fetched, .fetched last certified waited
      (.logged (.of_reachedBy (.call middle _)) log)⟩

/-- The retrieval of a submitted request leaves what is recorded as it is. -/
theorem Submitted.recorded {session : Session} {request : CertificateRequest} {pickupId : String}
    {dialogue later : Dialogue} {outcome : Except Stop PemCollection}
    (submitted : Submitted session request pickupId dialogue outcome later) :
    later.recorded = dialogue.recorded := by
  cases submitted with
  | unfetched waited => exact waited.recorded
  | fetched _ _ waited fetched => exact (waited.trans fetched).recorded

/-- The calls that look for the request to retrieve: a search, unless its pickup id is known. -/
def lookupCalls (session : Session) (request : CertificateRequest) : List Call :=
  match filled? request.pickupId, filled? request.thumbprint with
  | none, some thumbprint => [.thumbprintSearch session thumbprint]
  | _, _ => []

/-- Whatever has a pickup id after its retrieval was retrieved as a submitted request. -/
theorem hold_retrieveCertificate_pickedUp (manager : Manager) {session : Session}
    {request : CertificateRequest} {pickupId : String} (company : session.account.company.isSome)
    (uncertified : filled? request.certificateId = none) (arrivals : List Arrival)
    (pickedUp : filled? ((((manager.retrieveCertificate (some session) request).on
      arrivals).2.recorded).or request.pickupId) = some pickupId) :
    ∃ middle : Dialogue, middle.sent = lookupCalls session request ∧
      middle.arrivals = arrivals.drop (lookupCalls session request).length ∧
      (manager.retrieveCertificate (some session) request).on arrivals =
        (manager.retrieveSubmitted session { request with pickupId := some pickupId }
          pickupId).hold middle := by
  obtain ⟨run, comesTo, retrieved⟩ :=
    hold_retrieveCertificate_comesTo manager request company { arrivals }
  rw [Run.on_eq_hold, retrieved] at pickedUp ⊢
  -- Without a pickup id from the start, one has to be recorded.
  have unrecorded {later : Dialogue} (unsubmitted : filled? request.pickupId = none)
      (kept : later.recorded = none) :
      filled? (later.recorded.or request.pickupId) ≠ some pickupId := by
    rw [kept, Option.none_or, unsubmitted]
    simp
  cases comesTo with
  | certified certified =>
    rw [uncertified] at certified
    cases certified
  | submitted _ submitted =>
    obtain ⟨holds, filled⟩ := filled?_eq_some.mp submitted
    -- Nothing is recorded, so that the pickup id is the one it was before.
    obtain ⟨outcome, later, held, run⟩ :=
      submitted_retrieveSubmitted manager session request filled { arrivals }
    rw [held, run.recorded, Option.none_or, submitted, Option.some.injEq] at pickedUp
    subst pickedUp
    have known : lookupCalls session request = [] := by simp [lookupCalls, submitted]
    exact ⟨{ arrivals }, by rw [known], by rw [known]; rfl, by rw [← holds]⟩
  | unnamed _ unsubmitted => exact absurd pickedUp (unrecorded unsubmitted rfl)
  | @printed thumbprint _ unsubmitted printed =>
    obtain ⟨kept, _, _⟩ | ⟨requestId, log, filled, _, goesOn⟩ :=
      hold_retrieveByThumbprint_recorded manager session request thumbprint { arrivals }
    · exact absurd pickedUp (unrecorded unsubmitted kept)
    · obtain ⟨outcome, later, fetched, run⟩ := submitted_retrieveSubmitted manager session
        { request with pickupId := some requestId } filled _
      -- The retrieval that follows leaves the pickup id as it has been recorded.
      rw [goesOn, fetched, run.recorded, Option.some_or, filled?_eq_some.mpr ⟨rfl, filled⟩,
        Option.some.injEq] at pickedUp
      subst pickedUp
      exact ⟨_, by simp [lookupCalls, unsubmitted, printed],
        by simp [lookupCalls, unsubmitted, printed], goesOn⟩

/-- Looking for the request fetches nothing, and neither does reading its status. -/
theorem not_fetchesChain_lookupCalls {session : Session} {request : CertificateRequest}
    {pickupId : String} {reads : Nat} :
    ∀ call ∈ lookupCalls session request ++ List.replicate reads (.status session pickupId),
      ¬ call.FetchesChain := by
  intro call member
  rcases List.mem_append.mp member with member | member
  · unfold lookupCalls at member
    split at member
    · rw [List.mem_singleton.mp member]
      exact Call.not_fetchesChain_thumbprintSearch session _
    · cases member
  · rw [List.eq_of_mem_replicate member]
    exact Call.not_fetchesChain_status session pickupId

/--
The chain of one certificate is fetched, once and by the last call.

The certificate is what the last read of the status tells of, and the order is what is wanted.
-/
structure ChainFetch (session : Session) (request : CertificateRequest) (pickupId : String)
    (arrivals : List Arrival) (sent : List Call) where
  reads : Nat
  status : RequestStatus
  last : Polling.LastRead (arrivals.drop (lookupCalls session request).length) reads status
  certified : status.certificateId ≠ ""
  calls : sent = lookupCalls session request ++ List.replicate reads (.status session pickupId) ++
    [.contents session status.certificateId request.chainOption.order]

namespace ChainFetch

variable {session : Session} {request : CertificateRequest} {pickupId : String}
  {arrivals : List Arrival} {sent : List Call}

/-- A response answers the fetch: it is the reply that comes behind those to the other calls. -/
def Answers (fetch : ChainFetch session request pickupId arrivals sent) (response : Response) :
    Prop :=
  ∃ arrival, arrivals[(lookupCalls session request).length + fetch.reads]? = some arrival ∧
    arrival.reply = .response response

section Learned

variable {α : Type} {middle : Dialogue} (fetch : ChainFetch session request pickupId arrivals sent)
  (arrived : middle.arrivals = arrivals.drop ((lookupCalls session request).length + fetch.reads))
  (read : Response → Outcome α)

include arrived

/-- Where the fetch is made, the response that answers it is the next reply. -/
theorem answers_iff {response : Response} : fetch.Answers response ↔
    ∃ arrival rest, middle.arrivals = arrival :: rest ∧ arrival.reply = .response response := by
  unfold Answers
  rw [← List.head?_drop, ← arrived]
  simp only [List.head?_eq_some_iff]
  constructor
  · rintro ⟨arrival, ⟨rest, next⟩, answer⟩
    exact ⟨arrival, rest, next, answer⟩
  · rintro ⟨arrival, rest, next, answer⟩
    exact ⟨arrival, ⟨rest, next⟩, answer⟩

/-- What the fetch learns is read from a response that answers it. -/
theorem learns_eq_ok {value : α} :
    middle.learns read = .ok value ↔ ∃ response, fetch.Answers response ∧
      read response = .ok value := by
  simp only [Dialogue.learns_eq_ok, fetch.answers_iff arrived]
  constructor
  · rintro ⟨arrival, rest, response, next, answer, told⟩
    exact ⟨response, ⟨arrival, rest, next, answer⟩, told⟩
  · rintro ⟨response, ⟨arrival, rest, next, answer⟩, told⟩
    exact ⟨arrival, rest, response, next, answer, told⟩

/-- Where a response cannot be read, the fetch fails for what is wrong with it. -/
theorem learns_eq_failed {response : Response} {failure : Failure}
    (answers : fetch.Answers response) (refused : read response = .error failure) :
    middle.learns read = .error (.failed failure) := by
  obtain ⟨arrival, rest, next, answer⟩ := (fetch.answers_iff arrived).mp answers
  rw [Dialogue.learns_cons next, answer]
  exact Outcome.mapError_eq_failed.mpr refused

end Learned

end ChainFetch

/--
A retrieval by pickup id hands on no chain but one whose leaf carries the key signed for.

Such a chain is that of the certificate in the last status read, and is fetched once.
Any other chain received is refused: for its key, or for a signing request that cannot be read.
-/
theorem retrieveCertificate_verifies_leaf (manager : Manager) (session : Option Session)
    {request : CertificateRequest} {csr pickupId : String}
    (signing : filled? request.csr = some csr) (uncertified : filled? request.certificateId = none)
    (arrivals : List Arrival)
    (pickedUp : filled? ((((manager.retrieveCertificate session request).on
      arrivals).2.recorded).or request.pickupId) = some pickupId) :
    let held := (manager.retrieveCertificate session request).on arrivals
    ((∃ stop, held.1 = .error stop) ∧ ∀ call ∈ held.2.sent, ¬ call.FetchesChain) ∨
    ∃ account, session = some account ∧
      ∃ fetch : ChainFetch account request pickupId arrivals held.2.sent,
        (∀ collection, held.1 = .ok collection ↔
          ∃ response, fetch.Answers response ∧ VerifiedChain request csr response collection) ∧
        ∀ response leaf issuers, fetch.Answers response → response.status = 200 →
          X509.Certificate.allOfText? response.body = some (leaf :: issuers) →
            ((∀ key, ¬ request.SignsFor csr key) → held.1 = .error (.failed .unreadableCsr)) ∧
            ∀ key carried, request.SignsFor csr key → leaf.subjectKey.key? = some carried →
              carried ≠ key → held.1 = .error (.failed (.wrongKey (some pickupId))) := by
  intro held
  cases authentic : authenticated session "retrieve a certificate" with
  | error failure =>
    -- Without a session to act in there is no call at all.
    have refused : held = (.error (.failed failure), { arrivals }) := by
      unfold held retrieveCertificate
      rw [Run.on_eq_hold, authentic]
      rfl
    rw [refused]
    exact .inl ⟨⟨_, rfl⟩, by simp⟩
  | ok account =>
    obtain ⟨rfl, company⟩ := authenticated_eq_ok.mp authentic
    obtain ⟨start, sent, arrived, same⟩ :=
      hold_retrieveCertificate_pickedUp manager company uncertified arrivals pickedUp
    obtain ⟨outcome, later, retrieved, run⟩ := submitted_retrieveSubmitted manager account
      { request with pickupId := some pickupId } (filled?_eq_some.mp pickedUp).2 start
    have through : held = (outcome, later) := same.trans retrieved
    rw [through]
    cases run with
    | unfetched waited =>
      -- The wait has failed, with all the calls so far being searches and reads of the status.
      rw [waited.sent, sent]
      exact .inl ⟨⟨_, rfl⟩, not_fetchesChain_lookupCalls⟩
    | @fetched reads status middle later last certified waited fetched =>
      rw [arrived] at last
      have calls : later.sent = lookupCalls account request ++
          List.replicate reads (.status account pickupId) ++
            [.contents account status.certificateId request.chainOption.order] := by
        rw [fetched.sent, waited.sent, sent]
      let fetch : ChainFetch account request pickupId arrivals later.sent :=
        ⟨reads, status, last, certified, calls⟩
      have next : middle.arrivals =
          arrivals.drop ((lookupCalls account request).length + reads) := by
        rw [waited.arrivals, arrived, List.drop_drop, List.length_replicate]
      refine .inr ⟨account, rfl, fetch, fun collection => ?_, fun response leaf issuers answers ok
        received => ⟨fun unsigned => ?_, fun key carried signs carries differs => ?_⟩⟩
      · rw [fetch.learns_eq_ok next]
        simp only [chainFrom_eq_ok signing]
      · exact fetch.learns_eq_failed next _ answers
          (chainFrom_unsigned signing ok received unsigned)
      · exact fetch.learns_eq_failed next _ answers
          (chainFrom_wrongKey ok received signs carries differs)

/-- A reply that a request is issued, and then one with the two certificates in an order. -/
def pairArrivals (order : ChainOrder) : List Arrival :=
  [⟨.zero, issuedReply⟩, ⟨.zero, contentsReply order⟩]

/-- A chain with the leaf first is handed on, and with another certificate first it is refused. -/
theorem retrieveCertificate_verifies_pair :
    let session : Session := ⟨"key", { company := some ⟨"co-1", "Example"⟩ }⟩
    let manager : Manager := ⟨none, .ofInt 2, .ofInt 1, "host", .system⟩
    let request : CertificateRequest := { csr := some (bareRequest 7), pickupId := some "req-1" }
    let retrieval := manager.retrieveCertificate (some session) request
    (retrieval.on (pairArrivals .leafFirst)).1 =
        .ok ⟨(bareCertificate 7).text, [(bareCertificate 9).text]⟩ ∧
      (retrieval.on (pairArrivals .rootFirst)).1 = .error (.failed (.wrongKey (some "req-1"))) := by
  intro session manager request retrieval
  simp only [retrieval]
  obtain ⟨signs, carries⟩ := signsFor_bareRequest (rfl : request.csr = some (bareRequest 7))
  have signing : filled? request.csr = some (bareRequest 7) :=
    filled?_eq_some.mpr ⟨signs.holds, signs.filled⟩
  have submitted : filled? request.pickupId = some "req-1" := by decide
  obtain ⟨status, told, issued, certified⟩ := issuedReply_tells
  -- Whatever the order of the chain, it is fetched behind one read of the status.
  have sent (order : ChainOrder) :
      ((manager.retrieveCertificate (some session) request).on (pairArrivals order)).2.sent =
        [.status session "req-1", .contents session "cert-1" .leafFirst] := by
    have next : ({ arrivals := pairArrivals order } : Dialogue).arrivals =
      ⟨.zero, issuedReply⟩ :: _ := rfl
    obtain ⟨waited, wait, sent, left⟩ := Polling.hold_awaitIssuance_issued .system session
      (by decide : "req-1" ≠ "") manager.pollInterval request.patience next told issued
      (by rw [certified]; decide)
    obtain ⟨log, fetched⟩ := hold_fetchChain session request "req-1" "cert-1" waited
    rw [certified] at wait
    rw [Run.on_eq_hold, hold_retrieveCertificate_submitted rfl (by decide) submitted,
      retrieveSubmitted, Run.hold_bind_ok wait, fetched, Dialogue.called_sent, sent]
    rfl
  have pickedUp (order : ChainOrder) :
      filled? ((((manager.retrieveCertificate (some session) request).on
        (pairArrivals order)).2.recorded).or request.pickupId) = some "req-1" := by
    obtain ⟨outcome, later, held, course⟩ := submitted_retrieveSubmitted manager session request
      (by decide : "req-1" ≠ "") { arrivals := pairArrivals order }
    rw [Run.on_eq_hold, hold_retrieveCertificate_submitted rfl (by decide) submitted, held,
      course.recorded, Option.none_or, submitted]
  -- There is one read of the status only, so that the chain is in the second reply.
  have answers {order : ChainOrder} {calls : List Call} (fetch : ChainFetch session request "req-1"
      (pairArrivals order) calls) (two : calls.length = 2) {response : Response}
      (answer : contentsReply order = .response response) : fetch.Answers response := by
    have known : lookupCalls session request = [] := by simp [lookupCalls, submitted]
    have count := congrArg List.length fetch.calls
    have once : fetch.reads = 1 := by
      simpa [two, known] using count.symm
    exact ⟨⟨.zero, contentsReply order⟩, by rw [known, once]; rfl, answer⟩
  have fetches : ¬ ∀ call ∈ [.status session "req-1", .contents session "cert-1" .leafFirst],
      ¬ Call.FetchesChain call :=
    fun none => none _ (.tail _ (.head _)) ⟨_, _, _, rfl⟩
  constructor
  · obtain ⟨body, answer, received⟩ := contentsReply_received .leafFirst
    have wellFormed := X509.Certificate.wellFormed_of_allOfText? received _ (.head _)
    obtain ⟨_, quiet⟩ | ⟨account, same, fetch, handsOn, _⟩ := retrieveCertificate_verifies_leaf
      manager (some session) signing (by decide) (pairArrivals .leafFirst) (pickedUp .leafFirst)
    · rw [sent] at quiet
      exact absurd quiet fetches
    · cases Option.some.inj same
      exact (handsOn _).mpr ⟨_, answers fetch (by rw [sent]; rfl) answer, rfl, _, _, _, received,
        rfl, X509.Certificate.ofText?_text wellFormed, signs, carries⟩
  · obtain ⟨body, answer, received⟩ := contentsReply_received .rootFirst
    obtain ⟨_, quiet⟩ | ⟨account, same, fetch, _, refuses⟩ := retrieveCertificate_verifies_leaf
      manager (some session) signing (by decide) (pairArrivals .rootFirst) (pickedUp .rootFirst)
    · rw [sent] at quiet
      exact absurd quiet fetches
    · cases Option.some.inj same
      exact (refuses _ _ _ (answers fetch (by rw [sent]; rfl) answer) rfl received).2 _
        (.ed25519 (List.replicate 32 9)) signs (by decide +kernel) (by decide +kernel)

end Manager

end Issuance
