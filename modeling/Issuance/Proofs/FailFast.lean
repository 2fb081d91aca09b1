import Issuance.Lifecycle.Ledger
import Issuance.Proofs.Failure
import Issuance.Proofs.Renewal

/-! What is refused for what the caller asks is refused before anything is said to the service. -/

namespace Issuance

/-- The failures that are not about what the caller asks for. -/
def Failure.Unasked (failure : Failure) : Prop := ∀ note, failure ≠ .validation note

namespace Failure

variable {failure : Failure}

theorem OfCall.unasked (calling : failure.OfCall) : failure.Unasked := by
  intro note same
  rw [same] at calling
  cases calling

theorem OfResolution.unasked (resolving : failure.OfResolution) : failure.Unasked := by
  cases resolving with
  | call calling => exact calling.unasked
  | ambiguous => exact fun _ => nofun

theorem OfRetrieval.unasked {pickupId : String} (retrieving : failure.OfRetrieval pickupId) :
    failure.Unasked := by
  cases retrieving with
  | call calling => exact calling.unasked
  | pending | timedOut | issuanceFailed | mismatch => exact fun _ => nofun

end Failure

/-- A run that fails for what the caller asks leaves the dialogue as it was. -/
structure Run.FailsFast {α : Type} (run : Run α) : Prop where
  untouched : ∀ {dialogue note}, (run.hold dialogue).1 = .error (.failed (.validation note)) →
    (run.hold dialogue).2 = dialogue

namespace Run.FailsFast

variable {α β : Type}

/-- A run that never fails for what the caller asks has nothing to leave. -/
theorem of_failsOnly {run : Run α} (only : run.FailsOnly Failure.Unasked) : run.FailsFast :=
  ⟨fun refused => absurd rfl (only.of_failed refused _)⟩

theorem fail (failure : Failure) : (Run.fail failure : Run α).FailsFast := ⟨fun _ => rfl⟩

theorem pure (value : α) : (Pure.pure value : Run α).FailsFast := ⟨fun _ => rfl⟩

/-- Behind a first part that fails fast, the second part has to be past refusing what is asked. -/
theorem bind {run : Run α} {next : α → Run β} (first : run.FailsFast)
    (second : ∀ value, (next value).FailsOnly Failure.Unasked) : (run >>= next).FailsFast := by
  constructor
  intro dialogue note refused
  rw [hold_bind] at refused ⊢
  cases held : run.hold dialogue with
  | mk outcome later =>
    rw [held] at refused
    -- What goes on is past refusing, so that a refusal is that of the first part.
    cases outcome with
    | ok value => exact absurd rfl ((second value).of_failed refused note)
    | error stop =>
      have same : stop = .failed (.validation note) := Except.error.inj refused
      have refusedFirst : (run.hold dialogue).1 = .error (.failed (.validation note)) := by
        rw [held, same]
      have kept := first.untouched refusedFirst
      rw [held] at kept
      exact kept

/-- An outcome that is taken over says nothing, so that what follows may still refuse. -/
theorem ofOutcome_bind (outcome : Outcome α) {next : α → Run β}
    (second : ∀ value, (next value).FailsFast) : (ofOutcome outcome >>= next).FailsFast := by
  constructor
  intro dialogue note refused
  rw [hold_bind, hold_ofOutcome] at refused ⊢
  cases outcome with
  | error failure => rfl
  | ok value => exact (second value).untouched refused

theorem map (f : α → β) {run : Run α} (fast : run.FailsFast) : (f <$> run).FailsFast := by
  constructor
  intro dialogue note refused
  rw [hold_map] at refused ⊢
  -- What a value is mapped to is no failure.
  cases held : (run.hold dialogue).1 with
  | ok value =>
    rw [held] at refused
    cases refused
  | error stop =>
    rw [held] at refused
    have same : stop = .failed (.validation note) := Except.error.inj refused
    exact fast.untouched (held.trans (congrArg Except.error same))

end Run.FailsFast

namespace Manager

variable (manager : Manager) (session : Option Session)

/-- Whatever fails for a call alone does not fail for what the caller asks. -/
private theorem unasked_of_calls {α : Type} {run : Run α} (only : run.FailsOnly Failure.OfCall) :
    run.FailsOnly Failure.Unasked :=
  only.mono fun _ => Failure.OfCall.unasked

theorem failsFast_authenticate (apiKey : Option String) : (authenticate apiKey).FailsFast := by
  unfold authenticate
  -- The key is the one thing that is looked at before the call.
  cases filled? apiKey with
  | none => exact .fail _
  | some apiKey =>
    refine .of_failsOnly ((unasked_of_calls (Client.failsOnly_account apiKey)).bind fun account => ?_)
    cases account.company with
    | none => exact .fail (Failure.OfCall.authentication _).unasked
    | some company => exact (Run.FailsOnly.log _ _ _).bind fun _ => .pure _

theorem failsFast_readZone (zone : Option String) : (manager.readZone session zone).FailsFast := by
  refine .ofOutcome_bind _ fun session => .ofOutcome_bind _ fun zone => ?_
  split
  · exact .fail _
  · exact .of_failsOnly (unasked_of_calls (Client.failsOnly_issuingTemplate session _ _))

theorem failsFast_prepareRequest (request : CertificateRequest) :
    (manager.prepareRequest session request).FailsFast := by
  unfold prepareRequest
  split
  · exact .fail _
  · refine .ofOutcome_bind _ fun account => ?_
    split
    · exact .fail _
    · -- With a zone to work in, all that is left is one call and what is made of it.
      refine .ofOutcome_bind _ fun zone => .of_failsOnly ?_
      refine (unasked_of_calls (failsOnly_resolveZone account zone)).bind fun _ => ?_
      exact (Run.FailsOnly.ofPlatform _).bind fun _ => .pure _

/-- What a request is refused for, it is refused for while it is prepared. -/
theorem failsFast_requestCertificate (request : CertificateRequest) :
    (manager.requestCertificate session request).FailsFast := by
  rw [requestCertificate_eq]
  exact (failsFast_prepareRequest manager session request).bind fun prepared =>
    unasked_of_calls (failsOnly_submitRecorded prepared.account prepared.submission _ _)

theorem failsOnly_retrieveByThumbprint (session : Session) (request : CertificateRequest)
    (thumbprint : String) :
    (manager.retrieveByThumbprint session request thumbprint).FailsOnly Failure.Unasked := by
  refine Run.FailsOnly.bind ((Resolution.failsOnly_resolveFingerprint session thumbprint).mono
    fun _ => Failure.OfResolution.unasked) fun found => ?_
  split
  · exact (Run.FailsOnly.recordPickup _).bind fun _ =>
      (failsOnly_retrieveSubmitted session _ manager _).mono fun _ => Failure.OfRetrieval.unasked
  · exact unasked_of_calls (failsOnly_fetchCertificate session _)
  · exact .fail (Failure.OfCall.decoding _ _).unasked

theorem failsFast_retrieveCertificate (request : CertificateRequest) :
    (manager.retrieveCertificate session request).FailsFast := by
  refine .ofOutcome_bind _ fun session => ?_
  -- A request that names nothing is refused, and is so without a call.
  split
  · exact .of_failsOnly (unasked_of_calls (failsOnly_fetchCertificate session _))
  · exact .of_failsOnly ((failsOnly_retrieveSubmitted session request manager _).mono
      fun _ => Failure.OfRetrieval.unasked)
  · exact .of_failsOnly (failsOnly_retrieveByThumbprint manager session request _)
  · exact .fail _

theorem failsFast_renewalTarget (session : Session) (renewal : RenewalRequest) :
    (Resolution.renewalTarget (some session) renewal).FailsFast := by
  refine .ofOutcome_bind _ fun target => ?_
  -- What names no certificate is refused by now, and what is left may only be searched for.
  split
  · exact .pure _
  · refine .of_failsOnly (Run.FailsOnly.bind (.pure session) fun session => ?_)
    refine Run.FailsOnly.bind ((Resolution.failsOnly_resolveFingerprint session _).mono
      fun _ => Failure.OfResolution.unasked) fun found => ?_
    split
    · exact .fail (Failure.OfCall.notFound _ _ _).unasked
    · exact .pure _

theorem failsFast_clearRenewal (renewal : RenewalRequest) :
    (clearRenewal session renewal).FailsFast := by
  refine .ofOutcome_bind _ fun account => ?_
  split
  · -- The target is refused before it is looked for, and what comes behind it refuses nothing.
    refine (failsFast_renewalTarget account renewal).bind fun target => ?_
    refine (unasked_of_calls (Client.failsOnly_status account target)).bind fun previous => ?_
    split
    · exact .fail (Failure.OfCall.notFound _ _ _).unasked
    · exact (Resolution.failsOnly_verifyLineage account _ _ _ (fun _ => Failure.OfCall.unasked)
        fun _ _ => nofun).bind fun _ => .pure _
  · exact .fail _

/-- What a renewal is refused for, it is refused for while it is cleared. -/
theorem failsFast_renewCertificate (renewal : RenewalRequest) :
    (renewCertificate session renewal).FailsFast := by
  rw [renewCertificate_eq]
  refine (failsFast_clearRenewal session renewal).bind fun cleared => ?_
  rw [submitRenewal_eq]
  exact unasked_of_calls (failsOnly_submitRecorded cleared.account _ _ _)

theorem failsFast_applicationFor (session : Session) (request : ImportRequest) :
    (manager.applicationFor session request).FailsFast := by
  unfold applicationFor
  split
  · exact .pure _
  · refine .ofOutcome_bind _ fun zone => .of_failsOnly ?_
    exact (unasked_of_calls (Client.failsOnly_application session _)).bind fun _ => .pure _

theorem failsFast_importCertificate (request : ImportRequest) :
    (manager.importCertificate session request).FailsFast := by
  refine .ofOutcome_bind _ fun session => ?_
  split
  · exact .fail _
  · refine (failsFast_applicationFor manager session request).bind fun applicationId => ?_
    refine (unasked_of_calls (failsOnly_upload session _)).bind fun response => ?_
    refine Run.FailsOnly.bind (.ofOutcome fun _ failed =>
      (ofCall_of_uploadOutcome failed).unasked) fun _ => ?_
    refine (Run.FailsOnly.sleep _ _).bind fun _ => ?_
    refine (unasked_of_calls (Client.failsOnly_search session _)).bind fun found => ?_
    -- One certificate is found, or it is told how many there are.
    split
    · exact (Run.FailsOnly.log _ _ _).bind fun _ => .pure _
    · exact .fail fun _ => nofun

theorem failsFast_listCertificates (now : Moment) (filter : Option CertificateFilter)
    (zone : Option String) : (manager.listCertificates now session filter zone).FailsFast := by
  refine .ofOutcome_bind _ fun session => .ofOutcome_bind _ fun zone => .of_failsOnly ?_
  refine (unasked_of_calls (Client.failsOnly_application session _)).bind fun application => ?_
  refine (unasked_of_calls (failsOnly_listingFrom session _ _ _ _)).bind fun listed => ?_
  exact (Run.FailsOnly.log _ _ _).bind fun _ => .pure _

/-- Without a company no session is authenticated, and what needs one ends there. -/
theorem hold_unauthenticated {α : Type} {session : Option Session}
    (outside : ∀ found, session = some found → found.account.company = none) (action : String)
    (next : Session → Run α) (dialogue : Dialogue) :
    (Run.ofOutcome (authenticated session action) >>= next).hold dialogue =
      (.error (.failed (.unauthenticated action)), dialogue) := by
  have refused : authenticated session action = .error (.unauthenticated action) := by
    unfold authenticated
    cases session with
    | none => rfl
    | some found => simp [outside found rfl]
  rw [refused]
  rfl

end Manager

namespace Operation

/-- The operations that act for the company of a session: all but its opening and the bare wait. -/
def ActsForCompany : Operation → Prop
  | .authenticate _ | .await _ _ => False
  | .readZone _ | .request _ | .retrieve _ | .renew _ _ | .importCertificate _ | .list _ _ => True

/-- An operation submits a request whose signing request the service would have to make. -/
def AsksServiceCsr (desk : Desk) (operation : Operation) : Prop :=
  ∃ name, operation = .request name ∧
    ((desk.ledger.request? name).getD {}).csrOrigin = .serviceGenerated

variable (desk : Desk)

theorem failsFast_run (operation : Operation) : (operation.run desk).FailsFast := by
  cases operation with
  | authenticate apiKey => exact .map _ (Manager.failsFast_authenticate apiKey)
  | readZone zone => exact .map _ (Manager.failsFast_readZone desk.manager desk.session zone)
  | request name => exact .map _ (Manager.failsFast_requestCertificate desk.manager desk.session _)
  | retrieve name => exact .map _ (Manager.failsFast_retrieveCertificate desk.manager desk.session _)
  | renew renewal name => exact .map _ (Manager.failsFast_renewCertificate desk.session _)
  | importCertificate wanted =>
    exact .map _ (Manager.failsFast_importCertificate desk.manager desk.session wanted)
  | list filter zone =>
    exact .map _ (Manager.failsFast_listCertificates desk.manager desk.session desk.now filter zone)
  | await requestId timeout =>
    refine .map _ (.of_failsOnly ((Polling.failsOnly_awaitIssuance _ _ _ _ _).mono ?_))
    intro failure waited
    obtain ⟨id, _, waiting⟩ := waited
    exact waiting.ofRetrieval.unasked

/-- Without a company, an operation that needs one ends before anything is said. -/
theorem hold_run_outside {operation : Operation} (acts : operation.ActsForCompany)
    (outside : ∀ session, desk.session = some session → session.account.company = none)
    (dialogue : Dialogue) :
    ∃ failure, (operation.run desk).hold dialogue = (.error (.failed failure), dialogue) ∧
      ((operation.AsksServiceCsr desk ∧ failure = .serviceGeneratedCsr) ∨
        (¬ operation.AsksServiceCsr desk ∧ ∃ action, failure = .unauthenticated action)) := by
  -- Only a submission looks at its request before it looks at the session.
  have other : (∀ name, operation ≠ .request name) → ¬ operation.AsksServiceCsr desk := by
    intro differs asks
    obtain ⟨name, same, _⟩ := asks
    exact differs name same
  cases operation with
  | authenticate | await => cases acts
  | request name =>
    simp only [run, Run.hold_map, Manager.requestCertificate]
    by_cases asks : ((desk.ledger.request? name).getD {}).csrOrigin = .serviceGenerated
    · rw [if_pos asks]
      exact ⟨_, rfl, .inl ⟨⟨name, rfl, asks⟩, rfl⟩⟩
    · rw [if_neg asks, Manager.hold_unauthenticated outside]
      refine ⟨_, rfl, .inr ⟨?_, _, rfl⟩⟩
      intro found
      obtain ⟨_, same, generated⟩ := found
      cases same
      exact asks generated
  | readZone | retrieve | renew | importCertificate | list =>
    simp only [run, Run.hold_map, Manager.readZone, Manager.retrieveCertificate,
      Manager.renewCertificate, Manager.importCertificate, Manager.listCertificates,
      Manager.hold_unauthenticated outside]
    exact ⟨_, rfl, .inr ⟨other nofun, _, rfl⟩⟩

end Operation

/-- An operation that fails without a word leaves the desk as it is. -/
theorem Desk.after_silence (desk : Desk) (operation : Operation) (stop : Stop)
    (arrivals : List Arrival) : desk.after operation (.error stop) { arrivals } = desk := by
  unfold Desk.after
  -- There is no pickup id to keep, whether the operation works on a request or not.
  cases operation.requestName? <;> rfl

/--
What is refused for what the caller asks is refused before anything is sent, slept or recorded.

So is all that needs a company, in a session without one: it is not authenticated.
Only a request for a signing request of the service's own is refused for what it asks even then.
-/
theorem Desk.perform_fails_fast (desk : Desk) (operation : Operation) (arrivals : List Arrival) :
    let performed := desk.perform operation arrivals
    ((∃ note, performed.1 = .error (.failed (.validation note))) →
      performed.2 = ({ arrivals }, desk)) ∧
    (operation.ActsForCompany →
      (∀ session, desk.session = some session → session.account.company = none) →
        performed.2 = ({ arrivals }, desk) ∧
        (operation.AsksServiceCsr desk →
          ∃ note, performed.1 = .error (.failed (.validation note))) ∧
        (¬ operation.AsksServiceCsr desk →
          ∃ note, performed.1 = .error (.failed (.authentication note)))) := by
  intro performed
  -- Once nothing is said, a failure leaves the desk as well as the dialogue.
  have silent : ∀ stop, (operation.run desk).hold { arrivals } = (.error stop, { arrivals }) →
      performed = (.error stop, { arrivals }, desk) := by
    intro stop held
    show (((operation.run desk).hold { arrivals }).1, ((operation.run desk).hold { arrivals }).2,
      desk.after operation ((operation.run desk).hold { arrivals }).1
        ((operation.run desk).hold { arrivals }).2) = _
    rw [held, desk.after_silence]
  constructor
  · intro refused
    obtain ⟨note, refused⟩ := refused
    have kept := (operation.failsFast_run desk).untouched refused
    rw [silent _ (Prod.ext refused kept)]
  · intro acts outside
    obtain ⟨failure, held, why⟩ := operation.hold_run_outside desk acts outside { arrivals }
    rw [silent _ held]
    refine ⟨rfl, fun asks => ?_, fun plain => ?_⟩
    · rcases why with ⟨_, same⟩ | ⟨plain, _⟩
      · exact ⟨_, by rw [same]; rfl⟩
      · exact absurd asks plain
    · rcases why with ⟨asks, _⟩ | ⟨_, action, same⟩
      · exact absurd asks plain
      · exact ⟨_, by rw [same]; rfl⟩

end Issuance
