import Issuance.Proofs.Verification

/-! Where a pickup id comes from in a retrieval, and the calls that are made for one. -/

namespace Issuance

/-- A search leads to one request at most. -/
theorem LeadsToRequest.unique {arrivals : List Arrival} {one other : String}
    (leads : LeadsToRequest arrivals one) (leadsToo : LeadsToRequest arrivals other) :
    one = other := by
  -- Both are the request of the match that the first reply is judged as.
  obtain ⟨_, found, judged, named⟩ :=
    (Resolution.judgedSearch_requestId "" { arrivals }).mpr leads
  obtain ⟨_, _, again, namedToo⟩ :=
    (Resolution.judgedSearch_requestId "" { arrivals }).mpr leadsToo
  rw [judged] at again
  cases again
  exact named.symm.trans namedToo

/--
The calls poll a request.

Its status is read once or more, and behind that a chain is fetched at most.
-/
def Polls (session : Session) (pickupId : String) (calls : List Call) : Prop :=
  ∃ reads fetches, calls = List.replicate (reads + 1) (.status session pickupId) ++ fetches ∧
    fetches.length ≤ 1 ∧ ∀ call ∈ fetches, call.FetchesChain

namespace Manager

/-- The retrieval of a submitted request polls it, and records nothing. -/
theorem polls_retrieveSubmitted (manager : Manager) (session : Session)
    (request : CertificateRequest) {pickupId : String} (filled : pickupId ≠ "")
    (dialogue : Dialogue) :
    let later := ((manager.retrieveSubmitted session request pickupId).hold dialogue).2
    (∃ calls, later.sent = dialogue.sent ++ calls ∧ Polls session pickupId calls) ∧
      later.recorded = dialogue.recorded := by
  obtain ⟨outcome, later, held, run⟩ :=
    submitted_retrieveSubmitted manager session request filled dialogue
  -- It starts with a read of the status, so that there is one at least.
  have begins : dialogue.sent ++ [.status session pickupId] <+:
      ((manager.retrieveSubmitted session request pickupId).hold dialogue).2.sent :=
    begins_retrieveSubmitted filled dialogue
  rw [held] at begins ⊢
  refine ⟨?_, run.recorded⟩
  cases run with
  | @unfetched reads _ _ waited =>
    cases reads with
    | zero =>
      -- Without a read, fewer calls would have been made than it begins with.
      have short := begins.length_le
      rw [waited.sent] at short
      simp at short
    | succ reads =>
      exact ⟨_, waited.sent, reads, [], (List.append_nil _).symm, Nat.zero_le 1, nofun⟩
  | @fetched _ status middle _ last certified waited fetched =>
    obtain ⟨before, _, rfl, _⟩ := last.told
    have sent := fetched.sent
    rw [waited.sent, List.append_assoc] at sent
    refine ⟨_, sent, before, _, rfl, le_rfl, fun call member => ?_⟩
    rw [List.mem_singleton.mp member]
    exact ⟨session, _, _, rfl⟩

/-- The retrieval of a request with a pickup id polls that id. -/
theorem polls_retrieveCertificate (manager : Manager) {session : Session}
    {request : CertificateRequest} {pickupId : String} (company : session.account.company.isSome)
    (uncertified : filled? request.certificateId = none)
    (submitted : filled? request.pickupId = some pickupId) (arrivals : List Arrival) :
    Polls session pickupId
      ((manager.retrieveCertificate (some session) request).on arrivals).2.sent := by
  obtain ⟨⟨calls, sent, polls⟩, _⟩ := polls_retrieveSubmitted manager session request
    (filled?_eq_some.mp submitted).2 { arrivals }
  rw [Run.on_eq_hold, hold_retrieveCertificate_submitted company uncertified submitted, sent]
  exact polls

/--
A retrieval is led to a request by its thumbprint.

It has neither the id of a certificate nor that of a request, and its first call is a search.
-/
structure LedTo (session : Option Session) (request : CertificateRequest) (arrivals : List Arrival)
    (sent : List Call) (pickupId : String) : Prop where
  uncertified : filled? request.certificateId = none
  unsubmitted : filled? request.pickupId = none
  searched : ∃ account thumbprint, session = some account ∧ account.account.company.isSome ∧
    filled? request.thumbprint = some thumbprint ∧
    sent.head? = some (.thumbprintSearch account thumbprint)
  leads : LeadsToRequest arrivals pickupId

/-- Only a retrieval by thumbprint can record anything. -/
theorem ComesTo.kept_or_printed {manager : Manager} {session : Session}
    {request : CertificateRequest} {run : Run PemCollection}
    (comesTo : manager.ComesTo session request run) (dialogue : Dialogue) :
    ((run.hold dialogue).2.recorded = dialogue.recorded ∧
      (filled? request.certificateId = none → filled? request.pickupId = none →
        filled? request.thumbprint = none)) ∨
    ∃ thumbprint, filled? request.certificateId = none ∧ filled? request.pickupId = none ∧
      filled? request.thumbprint = some thumbprint ∧
      run = manager.retrieveByThumbprint session request thumbprint := by
  cases comesTo with
  | @certified certificateId certified =>
    obtain ⟨log, fetched⟩ := hold_fetchCertificate session certificateId dialogue
    refine .inl ⟨?_, fun uncertified => ?_⟩
    · rw [fetched]
      exact Dialogue.called_recorded _ _
    · rw [uncertified] at certified
      cases certified
  | submitted _ submitted =>
    have filled := (filled?_eq_some.mp submitted).2
    refine .inl ⟨(polls_retrieveSubmitted manager session request filled dialogue).2, ?_⟩
    intro _ unsubmitted
    rw [unsubmitted] at submitted
    cases submitted
  | unnamed _ _ unprinted => exact .inl ⟨rfl, fun _ _ => unprinted⟩
  | printed uncertified unsubmitted printed =>
    exact .inr ⟨_, uncertified, unsubmitted, printed, rfl⟩

/-- A retrieval records just the request that its thumbprint leads to, whatever becomes of it. -/
theorem recorded_retrieveCertificate (manager : Manager) (session : Option Session)
    (request : CertificateRequest) (arrivals : List Arrival) (pickupId : String) :
    let held := (manager.retrieveCertificate session request).on arrivals
    held.2.recorded = some pickupId ↔ LedTo session request arrivals held.2.sent pickupId := by
  intro held
  -- Where nothing is recorded, no thumbprint may lead anywhere.
  have unrecorded (none : held.2.recorded = none)
      (astray : ¬ LedTo session request arrivals held.2.sent pickupId) :
      held.2.recorded = some pickupId ↔ LedTo session request arrivals held.2.sent pickupId := by
    rw [none]
    exact ⟨nofun, fun led => absurd led astray⟩
  cases authentic : authenticated session "retrieve a certificate" with
  | error failure =>
    apply unrecorded
    · simp only [held, Run.on_eq_hold, retrieveCertificate, authentic]
      rfl
    · intro led
      obtain ⟨account, _, present, company, _⟩ := led.searched
      rw [authenticated_eq_ok.mpr ⟨present, company⟩] at authentic
      cases authentic
  | ok account =>
    obtain ⟨rfl, company⟩ := authenticated_eq_ok.mp authentic
    obtain ⟨run, comesTo, retrieved⟩ :=
      hold_retrieveCertificate_comesTo manager request company { arrivals }
    have same : held = run.hold { arrivals } := retrieved
    rcases comesTo.kept_or_printed { arrivals } with
      ⟨kept, unprinted⟩ | ⟨thumbprint, uncertified, unsubmitted, printed, rfl⟩
    · apply unrecorded
      · rw [same, kept]
      · intro led
        obtain ⟨_, _, _, _, printed, _⟩ := led.searched
        rw [unprinted led.uncertified led.unsubmitted] at printed
        cases printed
    · -- The search leads to a request, which is recorded before it is polled, or it leads astray.
      obtain ⟨kept, astray, _⟩ | ⟨requestId, log, filled, leads, goesOn⟩ :=
        hold_retrieveByThumbprint_recorded manager account request thumbprint { arrivals }
      · apply unrecorded
        · rw [same, kept]
        · exact fun led => astray pickupId led.leads
      · obtain ⟨⟨calls, sent, _⟩, recorded⟩ := polls_retrieveSubmitted manager account
          { request with pickupId := some requestId } filled _
        rw [same, goesOn, recorded, sent, Option.some.injEq]
        constructor
        · intro named
          subst named
          refine ⟨uncertified, unsubmitted, ⟨account, thumbprint, rfl, company, printed, ?_⟩,
            leads⟩
          rw [Dialogue.called_sent]
          rfl
        · exact fun led => leads.unique led.leads

end Manager

end Issuance
