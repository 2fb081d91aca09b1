import Issuance.Lifecycle.Request
import Issuance.Proofs.Client
import Issuance.Proofs.Schema

/-! A submission is one call, and the pickup id that is recorded and returned is its receipt's first. -/

namespace Issuance

namespace Manager

/-- Submits what has been prepared, records the pickup id it is given, and logs that. -/
def submitRecorded (session : Session) (submission : Submission) (event : String)
    (fields : String → Members) : Run String := do
  let receipt ← Client.submit session submission
  Run.recordPickup receipt.requestId
  Run.log .info event (fields receipt.requestId)
  return receipt.requestId

section Submit

variable (session : Session) (submission : Submission) (event : String) (fields : String → Members)

/-- A submission is one call, whose receipt's first id is recorded and returned. -/
theorem hold_submitRecorded (dialogue : Dialogue) :
    ∃ outcome log, (submitRecorded session submission event fields).hold dialogue =
        (outcome, { dialogue.called (.submission session submission) with
          recorded := outcome.toOption.or dialogue.recorded, log }) ∧
      ∀ requestId, outcome = .ok requestId ↔ ∃ arrival rest first others,
        dialogue.arrivals = arrival :: rest ∧
          arrival.reply.Tells SubmissionReceipt.check 201 ⟨first :: others⟩ ∧
          first.id = requestId := by
  have submitted := Client.hold_submit session dialogue submission
  have kept := dialogue.called_recorded (.submission session submission)
  unfold submitRecorded
  cases learned : dialogue.learns fun response =>
      response.decode SubmissionReceipt.check "certificate request" 201 with
  | error stop =>
    -- A call that fails records nothing, and no receipt could have been told.
    rw [learned] at submitted
    refine ⟨.error stop, (dialogue.called (.submission session submission)).log, ?_, ?_⟩
    · rw [Run.hold_bind_error submitted]
      simp only [Except.toOption, Option.none_or]
      rw [← kept]
    · simp only [reduceCtorEq, false_iff]
      intro requestId told
      obtain ⟨arrival, rest, first, others, arrivals, told, _⟩ := told
      rw [(Dialogue.learns_decode_eq_ok _).mpr ⟨arrival, rest, arrivals, told⟩] at learned
      cases learned
  | ok receipt =>
    rw [learned] at submitted
    obtain ⟨arrival, rest, arrivals, told⟩ := (Dialogue.learns_decode_eq_ok _).mp learned
    -- A receipt always has a first record, whose id is the one that counts.
    have ⟨_, _, _, valid⟩ := told
    obtain ⟨_, checked⟩ := valid_of_readBody valid
    obtain ⟨first, others, records⟩ := List.exists_cons_of_ne_nil
      (SubmissionReceipt.ne_nil_of_check checked)
    obtain ⟨_⟩ := receipt
    subst records
    refine ⟨.ok first.id, _, (Run.hold_bind_ok submitted).trans rfl, fun requestId => ?_⟩
    constructor
    · intro same
      cases same
      exact ⟨arrival, rest, first, others, arrivals, told, rfl⟩
    · -- The reply tells one receipt only.
      intro again
      obtain ⟨_, _, head, more, next, again, rfl⟩ := again
      rw [(Dialogue.learns_decode_eq_ok _).mpr ⟨_, _, next, again⟩] at learned
      cases learned
      rfl

end Submit

/-- The last of the calls submits, and its reply is a receipt whose first record has the id. -/
def Receipted (arrivals : List Arrival) (sent : List Call) (requestId : String) : Prop :=
  ∃ calls post arrival first others, sent = calls ++ [post] ∧ post.Submits ∧
    arrivals[calls.length]? = some arrival ∧
    arrival.reply.Tells SubmissionReceipt.check 201 ⟨first :: others⟩ ∧ first.id = requestId

/-- What is prepared by calls alone and then submitted records exactly what it returns. -/
theorem on_submitted {α : Type} {run : Run α} {next : α → Run String} {arrivals : List Arrival}
    (prepares : ∃ calls outcome middle, Dialogue.ReachedBy calls { arrivals } middle ∧
      run.hold { arrivals } = (outcome, middle))
    (submits : ∀ value, ∃ session submission event fields,
      next value = submitRecorded session submission event fields) :
    let held := (run >>= next).on arrivals
    held.2.recorded = held.1.toOption ∧
      ∀ requestId, held.1 = .ok requestId → Receipted arrivals held.2.sent requestId := by
  intro held
  obtain ⟨calls, outcome, middle, reached, prepared⟩ := prepares
  cases outcome with
  | error stop =>
    -- What is not prepared is not submitted.
    have stopped : held = (.error stop, middle) := Run.hold_bind_error prepared
    rw [stopped]
    exact ⟨reached.recorded, fun _ => nofun⟩
  | ok value =>
    obtain ⟨session, submission, event, fields, same⟩ := submits value
    obtain ⟨outcome, log, submitted, told⟩ :=
      hold_submitRecorded session submission event fields middle
    rw [← same] at submitted
    have through : held = _ := (Run.hold_bind_ok prepared).trans submitted
    rw [through]
    refine ⟨?_, fun requestId returned => ?_⟩
    · show outcome.toOption.or middle.recorded = _
      rw [reached.recorded, Option.or_none]
    · obtain ⟨arrival, rest, first, others, left, receipt, named⟩ := (told requestId).mp returned
      -- The reply to the submission stands behind those that preparing it has taken.
      have place : arrivals[calls.length]? = some arrival := by
        have dropped := reached.arrivals.symm.trans left
        rw [← List.head?_drop, dropped, List.head?_cons]
      refine ⟨calls, .submission session submission, arrival, first, others, ?_, ⟨rfl, rfl⟩, place,
        receipt, named⟩
      show (middle.called (.submission session submission)).sent = _
      rw [Dialogue.called_sent, reached.sent]
      rfl

/-- What a request comes to before it is submitted. -/
structure PreparedRequest where
  account : Session
  zone : Zone
  submission : Submission

/-- The part of a request that comes before its submission. -/
def prepareRequest (manager : Manager) (session : Option Session) (request : CertificateRequest) :
    Run PreparedRequest := do
  if request.csrOrigin = .serviceGenerated then Run.fail .serviceGeneratedCsr
  else
    let account ← Run.ofOutcome (authenticated session "request a certificate")
    match filled? request.csr with
    | none => Run.fail .missingCsr
    | some csr =>
      let zone ← Run.ofOutcome (manager.zoneFor request.zone)
      let (applicationId, templateId) ← resolveZone account zone
      let validity ← Run.ofPlatform (validityPeriod request.validityHours)
      return ⟨account, zone, manager.submission request csr applicationId templateId validity⟩

/-- The submission of a prepared request. -/
def submitPrepared (prepared : PreparedRequest) : Run String :=
  submitRecorded prepared.account prepared.submission "Certificate request submitted"
    fun requestId => [("request_id", .text requestId), ("zone", .text prepared.zone.text)]

/-- A request is prepared first and submitted then. -/
theorem requestCertificate_eq (manager : Manager) (session : Option Session)
    (request : CertificateRequest) :
    manager.requestCertificate session request =
      manager.prepareRequest session request >>= submitPrepared := by
  unfold requestCertificate prepareRequest
  by_cases generated : request.csrOrigin = .serviceGenerated
  · simp only [if_pos generated]
    rfl
  · simp only [if_neg generated]
    rw [bind_assoc]
    congr 1
    funext account
    -- Both sides make the same choices on the way, and the submission is what is left at their end.
    cases filled? request.csr with
    | none => rfl
    | some csr =>
      simp only [bind_assoc]
      rfl

/-- A request is prepared by calls alone. -/
theorem hold_prepareRequest (manager : Manager) (session : Option Session)
    (request : CertificateRequest) (dialogue : Dialogue) :
    ∃ calls outcome later, Dialogue.ReachedBy calls dialogue later ∧
      (manager.prepareRequest session request).hold dialogue = (outcome, later) := by
  unfold prepareRequest
  by_cases generated : request.csrOrigin = .serviceGenerated
  · rw [if_pos generated]
    exact ⟨[], _, dialogue, .refl dialogue, rfl⟩
  · rw [if_neg generated]
    cases authenticated session "request a certificate" with
    | error failure => exact ⟨[], _, dialogue, .refl dialogue, rfl⟩
    | ok account =>
      rw [Run.hold_bind_ok (rfl : (Run.ofOutcome (.ok account)).hold dialogue = _)]
      cases filled? request.csr with
      | none => exact ⟨[], _, dialogue, .refl dialogue, rfl⟩
      | some csr =>
        dsimp only
        cases manager.zoneFor request.zone with
        | error failure => exact ⟨[], _, dialogue, .refl dialogue, rfl⟩
        | ok zone =>
          rw [Run.hold_bind_ok (rfl : (Run.ofOutcome (.ok zone)).hold dialogue = _)]
          -- The one call looks the application up, and the template is found in what it tells.
          have looked := Client.hold_application account dialogue zone.application
          have called := Dialogue.ReachedBy.call dialogue (.application account zone.application)
          unfold resolveZone
          rw [bind_assoc]
          generalize dialogue.learns _ = learned at looked
          cases learned with
          | error stop => exact ⟨_, _, _, called, Run.hold_bind_error looked⟩
          | ok application =>
            rw [Run.hold_bind_ok looked, bind_assoc]
            cases templateOf application zone with
            | error failure => exact ⟨_, _, _, called, rfl⟩
            | ok template =>
              -- A validity that cannot be written ends the run where it stands.
              cases validityPeriod request.validityHours with
              | error lapse => exact ⟨_, _, _, called, rfl⟩
              | ok validity => exact ⟨_, _, _, called, rfl⟩

/-- A request records the id that it returns, and that is the first of its receipt. -/
theorem on_requestCertificate (manager : Manager) (session : Option Session)
    (request : CertificateRequest) (arrivals : List Arrival) :
    let held := (manager.requestCertificate session request).on arrivals
    held.2.recorded = held.1.toOption ∧
      ∀ requestId, held.1 = .ok requestId → Receipted arrivals held.2.sent requestId := by
  rw [requestCertificate_eq]
  exact on_submitted (hold_prepareRequest manager session request _)
    fun prepared => ⟨prepared.account, prepared.submission, _, _, rfl⟩

end Manager

end Issuance
