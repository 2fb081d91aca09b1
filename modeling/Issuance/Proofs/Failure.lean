import Issuance.Proofs.Import
import Issuance.Proofs.Listing
import Issuance.Proofs.Retrieval
import Issuance.Proofs.Submission

/-! What runs fail for: a call for what becomes of it, and a run in parts for what its parts fail for. -/

namespace Issuance

/-- The failures of a single call: nothing arrives, or what arrives is not what was asked for. -/
inductive Failure.OfCall : Failure → Prop
  | connection (note : Note) : OfCall (.connection note)
  | authentication (note : Note) : OfCall (.authentication note)
  | decoding (note : Note) (faults : List Fault) : OfCall (.decoding note faults)
  | notFound (note : Note) (resource key : Option String) : OfCall (.notFound note resource key)
  | refused (refusal : Refusal) (note : Note) (evidence : Evidence) :
      OfCall (.refused refusal note evidence)

/-- What the resolution of a fingerprint fails for: its search, or several requests that are found. -/
inductive Failure.OfResolution : Failure → Prop
  | call {failure : Failure} (calling : failure.OfCall) : OfResolution failure
  | ambiguous (fingerprint : String) (requestIds : List String) :
      OfResolution (.ambiguous fingerprint requestIds)

/-- What the retrieval of a submitted request fails for; where that tells of a request, it is this one. -/
inductive Failure.OfRetrieval (pickupId : String) : Failure → Prop
  | call {failure : Failure} (calling : failure.OfCall) : OfRetrieval pickupId failure
  | pending (status : Option String) : OfRetrieval pickupId (.pending pickupId status)
  | timedOut (timeout : Double) : OfRetrieval pickupId (.timedOut pickupId timeout)
  | issuanceFailed (status : RequestStatus) :
      OfRetrieval pickupId (.issuanceFailed pickupId status)
  | mismatch (note : Note) : OfRetrieval pickupId (.mismatch note)

/-- What a wait for issuance fails for; a request in flight is told of only without time to wait. -/
inductive Failure.OfWait (requestId : String) (timeout : Double) : Failure → Prop
  | call {failure : Failure} (calling : failure.OfCall) : OfWait requestId timeout failure
  | pending (impatient : timeout.isZero = true) (status : Option String) :
      OfWait requestId timeout (.pending requestId status)
  | timedOut : OfWait requestId timeout (.timedOut requestId timeout)
  | issuanceFailed (status : RequestStatus) :
      OfWait requestId timeout (.issuanceFailed requestId status)

/-- What a wait fails for, the retrieval that waits fails for as well. -/
theorem Failure.OfWait.ofRetrieval {failure : Failure} {requestId : String} {timeout : Double}
    (waiting : failure.OfWait requestId timeout) : failure.OfRetrieval requestId := by
  cases waiting with
  | call calling => exact .call calling
  | pending _ status => exact .pending status
  | timedOut => exact .timedOut timeout
  | issuanceFailed status => exact .issuanceFailed status

namespace Response

variable {response : Response} {failure : Failure}

theorem ofCall_of_decode {α : Type} {check : Check α} {operation : String} {expected : Int}
    (failed : response.decode check operation expected = .error failure) : failure.OfCall := by
  unfold decode decodeBody at failed
  -- Either the status is another one, or the body does not pass.
  split at failed
  · split at failed
    · cases failed
    · cases failed
      exact .decoding _ _
  · cases failed
    exact .refused _ _ _

theorem ofCall_of_decodeAccount (failed : response.decodeAccount = .error failure) :
    failure.OfCall := by
  unfold decodeAccount at failed
  split at failed
  · cases failed
    exact .authentication _
  · exact ofCall_of_decode failed

theorem ofCall_of_decodeApplication {name : String}
    (failed : response.decodeApplication name = .error failure) : failure.OfCall := by
  unfold decodeApplication at failed
  -- Two of the statuses say more than that they are not the one for success.
  split at failed
  · cases failed
    exact .notFound _ _ _
  · split at failed
    · cases failed
      exact .authentication _
    · exact ofCall_of_decode failed

end Response

/-- A call teaches no failure but one of its own, or one that its response is read as. -/
theorem Dialogue.ofCall_of_learns {α : Type} {dialogue : Dialogue} {read : Response → Outcome α}
    {failure : Failure} (failed : dialogue.learns read = .error (.failed failure)) :
    failure.OfCall ∨ ∃ arrival rest response, dialogue.arrivals = arrival :: rest ∧
      arrival.reply = .response response ∧ read response = .error failure := by
  unfold learns Reply.learned at failed
  -- Without a response there is nothing to read, and the failure is that of the transport.
  cases arrivals : dialogue.arrivals with
  | nil => simp [arrivals] at failed
  | cons arrival rest =>
    rw [arrivals] at failed
    cases replied : arrival.reply with
    | response response =>
      simp only [replied, Reply.answer, Except.bind] at failed
      exact .inr ⟨arrival, rest, response, rfl, replied, Outcome.mapError_eq_failed.mp failed⟩
    | timeout text =>
      simp only [replied, Reply.answer, Except.bind, Except.error.injEq, Stop.failed.injEq] at failed
      rw [← failed]
      exact .inl (.connection _)
    | broken text =>
      simp only [replied, Reply.answer, Except.bind, Except.error.injEq, Stop.failed.injEq] at failed
      rw [← failed]
      exact .inl (.connection _)
    | abandoned reason => simp [replied, Reply.answer, Except.bind] at failed

/-- Wherever the dialogue stands, a run fails for nothing but what is of a kind. -/
structure Run.FailsOnly {α : Type} (run : Run α) (kind : Failure → Prop) : Prop where
  of_failed : ∀ {dialogue failure}, (run.hold dialogue).1 = .error (.failed failure) → kind failure

namespace Run.FailsOnly

variable {α β : Type} {kind other : Failure → Prop}

/-- A run that always gives a value fails for nothing. -/
theorem of_ok {run : Run α} (succeeds : ∀ dialogue, ∃ value, (run.hold dialogue).1 = .ok value) :
    run.FailsOnly kind := by
  constructor
  intro dialogue failure failed
  obtain ⟨value, held⟩ := succeeds dialogue
  rw [held] at failed
  cases failed

theorem pure (value : α) : (Pure.pure value : Run α).FailsOnly kind :=
  of_ok fun _ => ⟨value, rfl⟩

theorem log (level : Level) (event : String) (fields : Members) :
    (Run.log level event fields).FailsOnly kind :=
  of_ok fun _ => ⟨(), rfl⟩

theorem recordPickup (pickupId : String) : (Run.recordPickup pickupId).FailsOnly kind :=
  of_ok fun _ => ⟨(), rfl⟩

theorem get : (MonadState.get : Run Dialogue).FailsOnly kind :=
  of_ok fun dialogue => ⟨dialogue, rfl⟩

/-- A failure that is given is the one that a run fails for. -/
theorem fail {failure : Failure} (known : kind failure) :
    (Run.fail failure : Run α).FailsOnly kind := by
  constructor
  intro dialogue _ failed
  cases failed
  exact known

/-- What ends a run without being a failure is of every kind. -/
theorem throw {stop : Stop} (known : ∀ failure, stop = .failed failure → kind failure) :
    (MonadExcept.throw stop : Run α).FailsOnly kind := by
  constructor
  intro dialogue failure failed
  exact known failure (Except.error.inj failed)

/-- A refusal of the platform is no failure. -/
theorem ofPlatform (given : Except Lapse α) : (Run.ofPlatform given).FailsOnly kind := by
  cases given with
  | ok value => exact pure value
  | error lapse =>
    apply throw
    intro failure same
    cases same

theorem sleep (sleeper : Sleeper) (seconds : Double) :
    (Run.sleep sleeper seconds).FailsOnly kind := by
  unfold Run.sleep
  split
  · apply throw
    intro failure same
    cases same
  · exact of_ok fun _ => ⟨(), rfl⟩

theorem ofOutcome {outcome : Outcome α} (known : ∀ failure, outcome = .error failure → kind failure) :
    (Run.ofOutcome outcome).FailsOnly kind := by
  constructor
  intro dialogue failure failed
  rw [hold_ofOutcome] at failed
  exact known failure (Outcome.mapError_eq_failed.mp failed)

/-- A call fails for what becomes of it, and otherwise for what its response is read as. -/
theorem of_call {run : Run α} {call : Call} {read : Response → Outcome α}
    (held : ∀ dialogue, run.hold dialogue = (dialogue.learns read, dialogue.called call))
    (calling : ∀ failure, failure.OfCall → kind failure)
    (reading : ∀ response failure, read response = .error failure → kind failure) :
    run.FailsOnly kind := by
  constructor
  intro dialogue failure failed
  rw [held] at failed
  rcases Dialogue.ofCall_of_learns failed with called | ⟨_, _, response, _, _, refused⟩
  · exact calling failure called
  · exact reading response failure refused

/-- A run in two parts fails for what one of its parts fails for. -/
theorem bind {run : Run α} {next : α → Run β} (first : run.FailsOnly kind)
    (second : ∀ value, (next value).FailsOnly kind) : (run >>= next).FailsOnly kind := by
  constructor
  intro dialogue failure failed
  rw [hold_bind] at failed
  cases held : run.hold dialogue with
  | mk outcome later =>
    rw [held] at failed
    -- Only a first part that has not stopped leaves something for the second part to fail for.
    cases outcome with
    | error stop =>
      have same : stop = .failed failure := Except.error.inj failed
      exact first.of_failed (by rw [held, same])
    | ok value => exact (second value).of_failed failed

theorem mono {run : Run α} (only : run.FailsOnly kind)
    (wider : ∀ failure, kind failure → other failure) : run.FailsOnly other :=
  ⟨fun failed => wider _ (only.of_failed failed)⟩

end Run.FailsOnly

namespace Client

variable (session : Session)

theorem failsOnly_account (apiKey : String) : (account apiKey).FailsOnly Failure.OfCall :=
  .of_call (hold_account · apiKey) (fun _ => id) fun _ _ => Response.ofCall_of_decodeAccount

theorem failsOnly_submit (submission : Submission) :
    (submit session submission).FailsOnly Failure.OfCall :=
  .of_call (hold_submit session · submission) (fun _ => id) fun _ _ => Response.ofCall_of_decode

theorem failsOnly_status (requestId : String) :
    (status session requestId).FailsOnly Failure.OfCall :=
  .of_call (hold_status session · requestId) (fun _ => id) fun _ _ => Response.ofCall_of_decode

theorem failsOnly_certificate (certificateId : String) :
    (certificate session certificateId).FailsOnly Failure.OfCall :=
  .of_call (hold_certificate session · certificateId) (fun _ => id) fun _ _ =>
    Response.ofCall_of_decode

theorem failsOnly_search (wanted : Search) : (search session wanted).FailsOnly Failure.OfCall :=
  (Run.FailsOnly.ofPlatform wanted.encode).bind fun payload =>
    .of_call (hold_send_read (.posting session _ payload) _) (fun _ => id) fun _ _ =>
      Response.ofCall_of_decode

theorem failsOnly_application (name : String) :
    (application session name).FailsOnly Failure.OfCall :=
  .of_call (hold_application session · name) (fun _ => id) fun _ _ =>
    Response.ofCall_of_decodeApplication

theorem failsOnly_issuingTemplate (application templateAlias : String) :
    (issuingTemplate session application templateAlias).FailsOnly Failure.OfCall :=
  .of_call (hold_issuingTemplate session · application templateAlias) (fun _ => id) fun _ _ =>
    Response.ofCall_of_decode

/-- A call whose response is left to the caller fails for no more than what becomes of it. -/
theorem failsOnly_send (call : Call) : (send call).FailsOnly Failure.OfCall :=
  .of_call (hold_send call) (fun _ => id) fun _ _ read => by cases read

end Client

namespace Resolution

theorem failsOnly_resolveFingerprint (session : Session) (thumbprint : String) :
    (resolveFingerprint session thumbprint).FailsOnly Failure.OfResolution := by
  apply Run.FailsOnly.bind ((Client.failsOnly_search session _).mono fun _ => .call)
  intro result
  apply Run.FailsOnly.bind
  · apply Run.FailsOnly.of_ok
    intro dialogue
    obtain ⟨log, held⟩ := hold_logMatch (Fingerprint.normalize thumbprint)
      (FingerprintMatch.ofSummaries (Fingerprint.normalize thumbprint) result.certificates) dialogue
    exact ⟨(), by rw [held]⟩
  · intro _
    apply Run.FailsOnly.ofOutcome
    intro failure judged
    -- Of the judgements on the records, three are failures.
    have judgement := FingerprintMatch.judged_ofSummaries (Fingerprint.normalize thumbprint)
      result.certificates
    rw [judged] at judgement
    cases judgement with
    | nothing | untold => exact .call (.notFound _ _ _)
    | several => exact .ambiguous _ _

theorem failsOnly_verifyLineage (session : Session) (certificateId requestId : String)
    (fingerprint : Option String) {kind : Failure → Prop}
    (calling : ∀ failure, failure.OfCall → kind failure)
    (superseded : ∀ latest, kind (.superseded requestId certificateId latest fingerprint)) :
    (verifyLineage session certificateId requestId fingerprint).FailsOnly kind := by
  apply Run.FailsOnly.bind ((Client.failsOnly_certificate session certificateId).mono calling)
  intro certificate
  split
  · exact .pure _
  · exact .fail (superseded _)

end Resolution

namespace Polling

variable (session : Session) (requestId : String) (timeout : Double)

theorem failsOnly_observe :
    (observe session requestId timeout).FailsOnly (Failure.OfWait requestId timeout) := by
  apply Run.FailsOnly.bind ((Client.failsOnly_status session requestId).mono fun _ => .call)
  intro status
  -- A status that has failed is told to the log first.
  split
  · exact (Run.FailsOnly.log _ _ _).bind fun _ => .fail (.issuanceFailed status)
  · split
    · next waiting => exact .fail (.pending (Bool.and_eq_true_iff.mp waiting).2 _)
    · exact .pure _

theorem failsOnly_readUntilFinal (sleeper : Sleeper) (interval start : Double) (reads : Nat) :
    (readUntilFinal sleeper session requestId timeout interval start reads).FailsOnly
      (Failure.OfWait requestId timeout) := by
  -- The induction is on the reads that are left, any of which may fail for its look.
  induction reads with
  | zero =>
    apply Run.FailsOnly.throw
    intro failure same
    cases same
  | succ reads ih =>
    apply (failsOnly_observe session requestId timeout).bind
    intro status
    split
    · exact .pure _
    · apply Run.FailsOnly.bind .get
      -- What the clock shows decides whether the wait fails or goes on.
      intro dialogue
      split
      · exact (Run.FailsOnly.log _ _ _).bind fun _ => .fail .timedOut
      · exact (Run.FailsOnly.sleep sleeper interval).bind fun _ => ih

theorem failsOnly_awaitIssuance (sleeper : Sleeper) (session : Option Session) (interval : Double)
    (requestId : Option String) (timeout : Double) :
    (awaitIssuance sleeper session interval requestId timeout).FailsOnly fun failure =>
      ∃ id, filled? requestId = some id ∧ Failure.OfWait id timeout failure := by
  unfold awaitIssuance
  cases filled? requestId with
  | none => exact .pure _
  | some id =>
    have known : ∀ failure, Failure.OfWait id timeout failure →
        ∃ other, some id = some other ∧ Failure.OfWait other timeout failure :=
      fun failure of => ⟨id, rfl, of⟩
    simp only
    -- Neither the session nor the clock is something to fail for.
    apply Run.FailsOnly.bind
    · cases session with
      | none =>
        apply Run.FailsOnly.throw
        intro failure same
        cases same
      | some found => exact .pure found
    · intro session
      apply Run.FailsOnly.bind .get
      intro dialogue
      apply ((failsOnly_readUntilFinal session id timeout sleeper interval _ _).mono known).bind
      intro status
      apply Run.FailsOnly.bind
      · unfold issuedCertificate
        split
        · exact .fail ⟨id, rfl, .call (.decoding _ _)⟩
        · exact (Run.FailsOnly.log _ _ _).bind fun _ => .pure _
      · exact fun _ => .pure _

end Polling

namespace Manager

variable (session : Session) (request : CertificateRequest)

theorem ofCall_of_collected {body : Bytes} {failure : Failure}
    (failed : collected body = .error failure) : failure.OfCall := by
  unfold collected at failed
  split at failed
  · cases failed
    exact .decoding _ _
  · cases failed

/-- A leaf is refused for its key, or there is no telling which keys there are. -/
theorem failure_of_verifyLeaf {request : CertificateRequest} {collection : PemCollection}
    {failure : Failure} (refused : Chain.verifyLeaf request collection = .error failure) :
    failure.OfCall ∨ ∃ note, failure = .mismatch note := by
  unfold Chain.verifyLeaf at refused
  split at refused
  · cases refused
    exact .inl (.decoding _ _)
  · cases refused
  · cases refused
    exact .inr ⟨_, rfl⟩

theorem failsOnly_assemble (body : Bytes) (option : ChainOption) :
    (Chain.assemble body option).FailsOnly Failure.OfCall := by
  constructor
  intro dialogue failure failed
  obtain ⟨log, held⟩ := hold_assemble body option dialogue
  rw [held] at failed
  exact ofCall_of_collected (Outcome.mapError_eq_failed.mp failed)

theorem failsOnly_fetchCertificate (certificateId : String) :
    (fetchCertificate session certificateId).FailsOnly Failure.OfCall := by
  apply (Client.failsOnly_send _).bind
  intro response
  split
  · exact failsOnly_assemble response.body .ignore
  · exact .fail (.refused _ _ _)

theorem failsOnly_fetchChain (pickupId certificateId : String) :
    (fetchChain session request pickupId certificateId).FailsOnly
      (Failure.OfRetrieval pickupId) := by
  apply ((Client.failsOnly_send _).mono fun _ => .call).bind
  intro response
  -- A chain that is not yet signed is pending, and one that is has a leaf to be checked.
  split
  · exact (Run.FailsOnly.log _ _ _).bind fun _ => .fail (.pending _)
  · split
    · exact .fail (.call (.refused _ _ _))
    · apply ((failsOnly_assemble response.body _).mono fun _ => .call).bind
      intro collection
      apply Run.FailsOnly.bind
      · apply Run.FailsOnly.ofOutcome
        intro failure checked
        rcases failure_of_verifyLeaf checked with calling | ⟨note, rfl⟩
        · exact .call calling
        · exact .mismatch note
      · exact fun _ => (Run.FailsOnly.log _ _ _).bind fun _ => .pure _

/-- The retrieval of a submitted request tells of that request, whatever it fails for. -/
theorem failsOnly_retrieveSubmitted (manager : Manager) (pickupId : String) :
    (manager.retrieveSubmitted session request pickupId).FailsOnly
      (Failure.OfRetrieval pickupId) := by
  apply Run.FailsOnly.bind
  · apply (Polling.failsOnly_awaitIssuance _ _ _ _ _).mono
    intro failure waited
    obtain ⟨id, named, of⟩ := waited
    have same : pickupId = id := Option.some.inj (filled?_eq_some.mp named).1
    rw [same]
    exact of.ofRetrieval
  · intro waited
    cases waited with
    | none => exact .fail (.call (.decoding _ _))
    | some certificateId => exact failsOnly_fetchChain session request pickupId certificateId

theorem failsOnly_resolveZone (zone : Zone) :
    (resolveZone session zone).FailsOnly Failure.OfCall := by
  apply (Client.failsOnly_application session zone.application).bind
  intro application
  apply Run.FailsOnly.bind
  · apply Run.FailsOnly.ofOutcome
    intro failure missing
    unfold templateOf at missing
    -- An alias that the application does not have is the one thing that can go wrong.
    split at missing
    · cases missing
    · split at missing
      · cases missing
      · cases missing
        exact .notFound _ _ _
  · exact fun _ => .pure _

/-- Recording and logging what a submission gives fails for nothing. -/
theorem failsOnly_submitRecorded (submission : Submission) (event : String)
    (fields : String → Members) :
    (submitRecorded session submission event fields).FailsOnly Failure.OfCall :=
  (Client.failsOnly_submit session submission).bind fun _ =>
    (Run.FailsOnly.recordPickup _).bind fun _ => (Run.FailsOnly.log _ _ _).bind fun _ => .pure _

theorem failsOnly_upload (wanted : Upload) : (upload session wanted).FailsOnly Failure.OfCall := by
  constructor
  intro dialogue failure failed
  rw [hold_upload] at failed
  unfold uploadLearned at failed
  -- A failure of the transport is told as a refusal, and there is nothing else to fail for.
  split at failed
  · cases failed
    exact .refused _ _ _
  · rcases Dialogue.ofCall_of_learns failed with calling | ⟨_, _, response, _, _, read⟩
    · exact calling
    · cases read

/-- The answer to an upload is refused for what it says, or for saying nothing that can be read. -/
theorem ofCall_of_uploadOutcome {response : Response} {failure : Failure}
    (failed : uploadOutcome response = .error failure) : failure.OfCall := by
  unfold uploadOutcome at failed
  simp only at failed
  -- The statuses are gone through first, and only a success has a body to read.
  split at failed
  · cases failed
    exact .refused _ _ _
  · split at failed
    · cases failed
      exact .refused _ _ _
    · split at failed
      · cases failed
        exact .refused _ _ _
      · unfold decodeBody at failed
        cases read : readBody UploadReceipt.check response.body with
        | invalid faults =>
          simp only [read, bind, Except.bind] at failed
          cases failed
          exact .decoding _ _
        | valid receipt =>
          simp only [read, bind, Except.bind] at failed
          split at failed
          · cases failed
          · cases failed
            exact .refused _ _ _

theorem failsOnly_listingFrom (expression : Expression) (pages limit page : Nat) :
    (listingFrom session expression pages limit page).FailsOnly Failure.OfCall := by
  -- The induction is on the pages allowed for, from any page on and with any limit left.
  induction pages generalizing limit page with
  | zero => exact .pure _
  | succ pages ih =>
    by_cases left : limit = 0
    · unfold listingFrom
      rw [if_pos left]
      exact .pure _
    · rw [listingFrom_succ left]
      apply (Client.failsOnly_search session _).bind
      intro result
      simp only [listingAfter]
      split
      · exact .pure _
      · exact (ih _ _).bind fun _ => .pure _

end Manager

end Issuance
