import Issuance.Lifecycle.Renewal
import Issuance.Proofs.Manager
import Issuance.Proofs.Resolution
import Issuance.Proofs.Submission

/-! A renewal submits only what it has cleared: once, last, and for the latest request. -/

namespace Issuance

/-- What a renewal knows by the time it may submit. -/
structure ClearedRenewal where
  account : Session
  request : CertificateRequest
  csr : String
  target : String
  previous : RequestStatus

/--
Two replies clear a target: that to the read of its status, and that to the read of a record.

The status has all that is needed, and its certificate comes from no other request.
-/
structure TargetCleared (target : String) (previous : RequestStatus)
    (statusRead recordRead : Arrival) : Prop where
  statusTold : statusRead.reply.Tells RequestStatus.check 200 previous
  certificateFilled : previous.certificateId ≠ ""
  applicationFilled : previous.applicationId ≠ ""
  templateFilled : previous.templateId ≠ ""
  latest : ∃ record, recordRead.reply.Tells ManagedCertificate.check 200 record ∧
    record.requestId = target

/-- All that has to be so for a renewal to submit, as its replies tell it. -/
structure Clearance (session : Option Session) (renewal : RenewalRequest) (arrivals : List Arrival)
    extends ClearedRenewal where
  present : session = some account
  company : account.account.company.isSome
  requested : renewal.request = some request
  signing : request.csr = some csr
  csrFilled : csr ≠ ""
  /-- The calls that find the target, and the replies they take. -/
  lookup : List Call
  taken : List Arrival
  found : TargetFound account renewal lookup taken target
  /-- The reply to the status read, the reply to the record read, and the replies after those. -/
  statusRead : Arrival
  recordRead : Arrival
  rest : List Arrival
  replies : arrivals = taken ++ statusRead :: recordRead :: rest
  cleared : TargetCleared target previous statusRead recordRead

namespace ClearedRenewal

variable (cleared : ClearedRenewal)

/--
The members of what is submitted.

Usage metadata is among them only for a request with a location.
-/
def members : Members :=
  [("certificateSigningRequest", .text cleared.csr),
    ("applicationId", .text cleared.previous.applicationId),
    ("certificateIssuingTemplateId", .text cleared.previous.templateId),
    ("existingCertificateId", .text cleared.previous.certificateId)] ++
  (match cleared.request.location with
    | none => []
    | some location => [("certificateUsageMetadata", .list [.record [
        ("appName", .text (if location.workload = "" then "Default" else location.workload)),
        ("nodeName", .text location.node)]])]) ++
  [("reuseCSR", .bool false)]

/-- The one call that submits the renewal. -/
def post : Call where
  method := "POST"
  path := Endpoint.certificateRequests
  apiKey := some cleared.account.apiKey
  body := some (.record cleared.members)

/-- What is submitted for a cleared renewal goes over the wire with these members. -/
theorem submission_eq_post :
    Call.submission cleared.account
      (Manager.renewalSubmission cleared.request cleared.csr cleared.previous) = cleared.post := by
  unfold Call.submission Call.posting post members Manager.renewalSubmission Manager.usageMetadata
  -- An absent location leaves the usage metadata out, and all other members are always there.
  cases cleared.request.location with
  | none => rfl
  | some location =>
    -- A workload that is not given goes by the name of the default one.
    by_cases empty : location.workload = ""
    · have blank : location.workload.isEmpty = true := String.isEmpty_iff.mpr empty
      simp only [if_pos empty, Option.map_some, blank]
      rfl
    · have filled : location.workload.isEmpty = false := String.isEmpty_eq_false_iff.mpr empty
      simp only [if_neg empty, Option.map_some, filled]
      rfl

end ClearedRenewal

/-- The calls a cleared renewal has made before it submits. -/
def Clearance.calls {session : Option Session} {renewal : RenewalRequest} {arrivals : List Arrival}
    (clearance : Clearance session renewal arrivals) : List Call :=
  clearance.lookup ++ [.status clearance.account clearance.target,
    .certificate clearance.account clearance.previous.certificateId]

/-- None of the calls that find a target submits anything. -/
theorem TargetFound.not_submits {session : Session} {renewal : RenewalRequest} {calls : List Call}
    {taken : List Arrival} {requestId : String}
    (found : TargetFound session renewal calls taken requestId) :
    ∀ call ∈ calls, ¬ call.Submits := by
  cases found with
  -- A target that is named takes no call, and a thumbprint takes one search.
  | named => simp
  | searched => simpa using Call.not_submits_thumbprintSearch session _

/-- None of the calls before the submission submits anything. -/
theorem Clearance.not_submits_calls {session : Option Session} {renewal : RenewalRequest}
    {arrivals : List Arrival} (clearance : Clearance session renewal arrivals) :
    ∀ call ∈ clearance.calls, ¬ call.Submits := by
  intro call member
  simp only [calls, List.mem_append, List.mem_cons, List.not_mem_nil, or_false] at member
  -- The calls are those of the lookup, the read of the status and the read of the record.
  rcases member with lookup | rfl | rfl
  · exact clearance.found.not_submits call lookup
  · exact Call.not_submits_status _ _
  · exact Call.not_submits_certificate _ _

/-- A renewal lacks no member exactly if the status gives all three ids it needs. -/
theorem RequestStatus.missingForRenewal?_eq_none {status : RequestStatus} :
    status.missingForRenewal? = none ↔
      status.certificateId ≠ "" ∧ status.applicationId ≠ "" ∧ status.templateId ≠ "" := by
  unfold missingForRenewal?
  -- The ids are looked at one after another, and each of them can be the one that is missing.
  by_cases certificate : status.certificateId = "" <;>
    by_cases application : status.applicationId = "" <;>
      by_cases template : status.templateId = "" <;> simp [certificate, application, template]

namespace Manager

/-- The reads that clear the target of a renewal. -/
def clearTarget (account : Session) (request : CertificateRequest) (csr : String)
    (thumbprint : Option String) (target : String) : Run ClearedRenewal := do
  let previous ← Client.status account target
  match previous.missingForRenewal? with
  | some member => Run.fail (.renewalIncomplete member target previous.state)
  | none =>
    let _ ← Resolution.verifyLineage account previous.certificateId target thumbprint
    return ⟨account, request, csr, target, previous⟩

/-- The part of a renewal that comes before its submission. -/
def clearRenewal (session : Option Session) (renewal : RenewalRequest) : Run ClearedRenewal := do
  let account ← Run.ofOutcome (authenticated session "renew a certificate")
  match renewal.request, filled? (renewal.request.bind (·.csr)) with
  | some request, some csr =>
    let target ← Resolution.renewalTarget (some account) renewal
    clearTarget account request csr renewal.thumbprint target
  | _, _ => Run.fail .renewalWithoutCsr

/-- The submission of a cleared renewal. -/
def submitRenewal (cleared : ClearedRenewal) : Run String := do
  let receipt ← Client.submit cleared.account
    (renewalSubmission cleared.request cleared.csr cleared.previous)
  Run.recordPickup receipt.requestId
  Run.log .info "Renewal request submitted"
    [("previous_request_id", .text cleared.target),
      ("certificate_id", .text cleared.previous.certificateId),
      ("request_id", .text receipt.requestId)]
  return receipt.requestId

/-- A renewal is cleared first and submitted then. -/
theorem renewCertificate_eq (session : Option Session) (renewal : RenewalRequest) :
    renewCertificate session renewal = clearRenewal session renewal >>= submitRenewal := by
  unfold renewCertificate clearRenewal clearTarget
  rw [bind_assoc]
  congr 1
  funext account
  generalize filled? (renewal.request.bind (·.csr)) = signing
  -- Both sides make the same choices on the way, and the submission is what is left at their end.
  cases renewal.request with
  | none => rfl
  | some request =>
    cases signing with
    | none => rfl
    | some csr =>
      -- From here on, each read is the same on both sides, and its outcome is passed on.
      dsimp only
      rw [bind_assoc]
      congr 1
      funext target
      rw [bind_assoc]
      congr 1
      funext previous
      cases previous.missingForRenewal? with
      | some member => rfl
      | none =>
        dsimp only
        rw [bind_assoc]
        rfl

section Target

variable (account : Session) (request : CertificateRequest) (csr : String)
  (thumbprint : Option String) {target : String} {dialogue : Dialogue}

/-- A cleared target takes one read of its status and one of its certificate's record. -/
theorem hold_clearTarget_of_cleared {previous : RequestStatus} {statusRead recordRead : Arrival}
    {rest : List Arrival} (cleared : TargetCleared target previous statusRead recordRead)
    (arrivals : dialogue.arrivals = statusRead :: recordRead :: rest) :
    ∃ later, Dialogue.ReachedBy
        [.status account target, .certificate account previous.certificateId] dialogue later ∧
      (clearTarget account request csr thumbprint target).hold dialogue =
        (.ok ⟨account, request, csr, target, previous⟩, later) := by
  have status := Client.hold_status account dialogue target
  rw [(Dialogue.learns_decode_eq_ok _).mpr ⟨_, _, arrivals, cleared.statusTold⟩] at status
  -- The record is read where the read of the status has led.
  let read := dialogue.called (.status account target)
  have next : read.arrivals = recordRead :: rest := by
    rw [Dialogue.called_arrivals, arrivals]
    rfl
  obtain ⟨record, recordTold, latest⟩ := cleared.latest
  -- That record passes, as it names the target.
  obtain ⟨outcome, lineage, verified⟩ := Resolution.hold_verifyLineage account
    previous.certificateId target thumbprint read
  have learned := (Dialogue.learns_decode_eq_ok "certificate lookup").mpr ⟨_, _, next, recordTold⟩
  rw [(verified record).mpr ⟨learned, latest⟩] at lineage
  have complete := RequestStatus.missingForRenewal?_eq_none.mpr
    ⟨cleared.certificateFilled, cleared.applicationFilled, cleared.templateFilled⟩
  refine ⟨_, (Dialogue.ReachedBy.call dialogue _).trans (.call read _), ?_⟩
  -- With nothing missing, the status is followed by the lineage, and that by nothing.
  refine (Run.hold_bind_ok status).trans ?_
  rw [complete]
  exact Run.hold_bind_ok lineage

/-- Clearing a target submits nothing, and comes through only if two replies clear it. -/
theorem hold_clearTarget (target : String) (dialogue : Dialogue) :
    ∃ calls outcome later, (∀ call ∈ calls, ¬ call.Submits) ∧
      Dialogue.ReachedBy calls dialogue later ∧
      (clearTarget account request csr thumbprint target).hold dialogue = (outcome, later) ∧
      ∀ cleared, outcome = .ok cleared → ∃ previous statusRead recordRead rest,
        cleared = ⟨account, request, csr, target, previous⟩ ∧
          dialogue.arrivals = statusRead :: recordRead :: rest ∧
          TargetCleared target previous statusRead recordRead := by
  have status := Client.hold_status account dialogue target
  have quiet := Call.not_submits_status account target
  have read := Dialogue.ReachedBy.call dialogue (.status account target)
  cases learned : dialogue.learns fun response =>
      response.decode RequestStatus.check "certificate request status" with
  | error stop =>
    -- A status that is not told is the end of it, after the one call.
    rw [learned] at status
    exact ⟨_, _, _, by simpa using quiet, read, Run.hold_bind_error status, by simp⟩
  | ok previous =>
    rw [learned] at status
    obtain ⟨statusRead, later, arrivals, statusTold⟩ :=
      (Dialogue.learns_decode_eq_ok _).mp learned
    unfold clearTarget
    rw [Run.hold_bind_ok status]
    cases complete : previous.missingForRenewal? with
    | some member => exact ⟨_, _, _, by simpa using quiet, read, rfl, by simp⟩
    | none =>
      -- Only a status with all that is needed is followed by a second call.
      obtain ⟨outcome, lineage, verified⟩ := Resolution.hold_verifyLineage account
        previous.certificateId target thumbprint (dialogue.called (.status account target))
      -- Both calls are reads.
      have reached := read.trans (.call _ (.certificate account previous.certificateId))
      have quietBoth : ∀ call ∈ [Call.status account target] ++
          [.certificate account previous.certificateId], ¬ call.Submits := by
        simpa using ⟨quiet, Call.not_submits_certificate account previous.certificateId⟩
      cases outcome with
      | error stop => exact ⟨_, _, _, quietBoth, reached, Run.hold_bind_error lineage, by simp⟩
      | ok record =>
        refine ⟨_, _, _, quietBoth, reached, Run.hold_bind_ok lineage, ?_⟩
        rintro _ ⟨⟩
        -- What has come through tells what the two replies must have been.
        obtain ⟨recordLearned, latest⟩ := (verified record).mp rfl
        obtain ⟨recordRead, rest, next, recordTold⟩ :=
          (Dialogue.learns_decode_eq_ok _).mp recordLearned
        obtain ⟨certificate, application, template⟩ :=
          RequestStatus.missingForRenewal?_eq_none.mp complete
        rw [Dialogue.called_arrivals, arrivals] at next
        exact ⟨previous, statusRead, recordRead, rest, rfl, by rw [arrivals, ← next]; rfl,
          statusTold, certificate, application, template, record, recordTold, latest⟩

end Target

/-- With a clearance, the part before the submission makes exactly its calls and comes through. -/
theorem hold_clearRenewal_of_clearance {session : Option Session} {renewal : RenewalRequest}
    {dialogue : Dialogue} (clearance : Clearance session renewal dialogue.arrivals) :
    ∃ later, Dialogue.ReachedBy clearance.calls dialogue later ∧ later.arrivals = clearance.rest ∧
      (clearRenewal session renewal).hold dialogue = (.ok clearance.toClearedRenewal, later) := by
  -- The first replies find the target, and the two behind them clear it.
  obtain ⟨found, toFound, foundRest, target⟩ :=
    Resolution.hold_renewalTarget_of_found clearance.found clearance.replies
  obtain ⟨later, toLater, cleared⟩ := hold_clearTarget_of_cleared clearance.account
    clearance.request clearance.csr renewal.thumbprint clearance.cleared foundRest
  refine ⟨later, toFound.trans toLater, by rw [toLater.arrivals, foundRest]; rfl, ?_⟩
  have authentication :
      (Run.ofOutcome (authenticated session "renew a certificate")).hold dialogue =
        (.ok clearance.account, dialogue) := by
    rw [authenticated_eq_ok.mpr ⟨clearance.present, clearance.company⟩]
    rfl
  have signing : filled? ((some clearance.request).bind (·.csr)) = some clearance.csr :=
    filled?_eq_some.mpr ⟨clearance.signing, clearance.csrFilled⟩
  unfold clearRenewal
  rw [Run.hold_bind_ok authentication, clearance.requested, signing]
  exact (Run.hold_bind_ok target).trans cleared

/-- The part before the submission submits nothing, and comes through only with a clearance. -/
theorem hold_clearRenewal (session : Option Session) (renewal : RenewalRequest)
    (dialogue : Dialogue) :
    ∃ calls outcome later, (∀ call ∈ calls, ¬ call.Submits) ∧
      Dialogue.ReachedBy calls dialogue later ∧
      (clearRenewal session renewal).hold dialogue = (outcome, later) ∧
      ∀ cleared, outcome = .ok cleared →
        Nonempty (Clearance session renewal dialogue.arrivals) := by
  unfold clearRenewal
  have authentication := Run.hold_ofOutcome (authenticated session "renew a certificate") dialogue
  cases checked : authenticated session "renew a certificate" with
  | error failure =>
    -- Without a company nothing is called.
    rw [checked] at authentication
    exact ⟨[], _, dialogue, by simp, .refl dialogue, Run.hold_bind_error authentication, by simp⟩
  | ok account =>
    rw [checked] at authentication
    obtain ⟨present, company⟩ := authenticated_eq_ok.mp checked
    rw [Run.hold_bind_ok authentication]
    -- Neither is anything called without a request, or with one that has no CSR.
    cases requested : renewal.request with
    | none => exact ⟨[], _, dialogue, by simp, .refl dialogue, rfl, by simp⟩
    | some request =>
      cases signing : filled? ((some request).bind (·.csr)) with
      | none => exact ⟨[], _, dialogue, by simp, .refl dialogue, rfl, by simp⟩
      | some csr =>
        obtain ⟨signed, csrFilled⟩ := filled?_eq_some.mp signing
        obtain ⟨lookup, outcome, found, quiet, toFound, target, named⟩ :=
          Resolution.hold_renewalTarget account renewal dialogue
        cases outcome with
        | error stop =>
          exact ⟨lookup, _, found, quiet, toFound, Run.hold_bind_error target, by simp⟩
        | ok requestId =>
          -- The calls of the lookup are followed by those that clear its target.
          obtain ⟨calls, outcome, later, quietLater, toLater, held, cleared⟩ :=
            hold_clearTarget account request csr renewal.thumbprint requestId found
          refine ⟨lookup ++ calls, outcome, later, ?_, toFound.trans toLater,
            (Run.hold_bind_ok target).trans held, fun _ through => ?_⟩
          · -- A call of either part submits nothing.
            intro call member
            exact (List.mem_append.mp member).elim (quiet call) (quietLater call)
          · -- What both parts know of the replies makes up the clearance.
            obtain ⟨taken, arrivals, targetFound⟩ := named requestId rfl
            obtain ⟨previous, statusRead, recordRead, rest, _, next, told⟩ := cleared _ through
            exact ⟨{
              account, request, csr, target := requestId, previous
              present, company, requested, signing := signed, csrFilled
              lookup, taken, found := targetFound
              statusRead, recordRead, rest, replies := by rw [arrivals, next], cleared := told }⟩

/-- A cleared renewal is submitted and recorded as anything else is. -/
theorem submitRenewal_eq (cleared : ClearedRenewal) :
    submitRenewal cleared = submitRecorded cleared.account
      (renewalSubmission cleared.request cleared.csr cleared.previous) "Renewal request submitted"
      fun requestId => [("previous_request_id", .text cleared.target),
        ("certificate_id", .text cleared.previous.certificateId), ("request_id", .text requestId)] :=
  rfl

/-- Submitting a cleared renewal is one call, whose receipt's first id is recorded and returned. -/
theorem hold_submitRenewal (cleared : ClearedRenewal) (dialogue : Dialogue) :
    ∃ outcome later, (submitRenewal cleared).hold dialogue = (outcome, later) ∧
      later.sent = dialogue.sent ++ [cleared.post] ∧
      later.recorded = outcome.toOption.or dialogue.recorded ∧
      ∀ requestId, outcome = .ok requestId ↔ ∃ arrival rest first others,
        dialogue.arrivals = arrival :: rest ∧
          arrival.reply.Tells SubmissionReceipt.check 201 ⟨first :: others⟩ ∧
          first.id = requestId := by
  obtain ⟨outcome, log, held, told⟩ := hold_submitRecorded cleared.account
    (renewalSubmission cleared.request cleared.csr cleared.previous) "Renewal request submitted" _
    dialogue
  rw [← submitRenewal_eq, cleared.submission_eq_post] at held
  exact ⟨outcome, _, held, dialogue.called_sent cleared.post, rfl, told⟩

/-- A renewal records the id that it returns, and that is the first of its receipt. -/
theorem on_renewCertificate (session : Option Session) (renewal : RenewalRequest)
    (arrivals : List Arrival) :
    let held := (renewCertificate session renewal).on arrivals
    held.2.recorded = held.1.toOption ∧
      ∀ requestId, held.1 = .ok requestId → Receipted arrivals held.2.sent requestId := by
  obtain ⟨calls, outcome, middle, _, reached, cleared, _⟩ :=
    hold_clearRenewal session renewal { arrivals }
  rw [renewCertificate_eq]
  exact on_submitted ⟨calls, outcome, middle, reached, cleared⟩
    fun cleared => ⟨_, _, _, _, submitRenewal_eq cleared⟩

/-- With a clearance at hand, a renewal makes its calls and submits, and the receipt decides. -/
theorem hold_renewCertificate_of_clearance {session : Option Session} {renewal : RenewalRequest}
    (dialogue : Dialogue) (clearance : Clearance session renewal dialogue.arrivals) :
    ∃ outcome later, (renewCertificate session renewal).hold dialogue = (outcome, later) ∧
      later.sent = dialogue.sent ++ (clearance.calls ++ [clearance.post]) ∧
      later.recorded = outcome.toOption.or dialogue.recorded ∧
      ∀ requestId, outcome = .ok requestId ↔ ∃ arrival first others,
        clearance.rest.head? = some arrival ∧
          arrival.reply.Tells SubmissionReceipt.check 201 ⟨first :: others⟩ ∧
          first.id = requestId := by
  obtain ⟨middle, reached, left, cleared⟩ := hold_clearRenewal_of_clearance clearance
  -- The submission takes the first of the replies that clearing has left.
  obtain ⟨outcome, later, submitted, sent, recorded, told⟩ :=
    hold_submitRenewal clearance.toClearedRenewal middle
  refine ⟨outcome, later, ?_, ?_, ?_, fun requestId => ?_⟩
  · rw [renewCertificate_eq, Run.hold_bind_ok cleared, submitted]
  · rw [sent, reached.sent, List.append_assoc]
  · rw [recorded, reached.recorded]
  · -- The reply to the submission is the first of the rest.
    rw [told, left]
    constructor
    · rintro ⟨arrival, rest, first, others, next, receipt⟩
      exact ⟨arrival, first, others, by rw [next]; rfl, receipt⟩
    · rintro ⟨arrival, first, others, next, receipt⟩
      obtain ⟨rest, next⟩ := List.head?_eq_some_iff.mp next
      exact ⟨arrival, rest, first, others, next, receipt⟩

/-- Behind calls that submit nothing, a call that submits is the last one. -/
theorem submits_last {calls : List Call} {post call : Call} {position : Nat}
    (quiet : ∀ call ∈ calls, ¬ call.Submits) (asked : (calls ++ [post])[position]? = some call)
    (submits : call.Submits) : position + 1 = (calls ++ [post]).length := by
  have bound := (List.getElem?_eq_some_iff.mp asked).1
  rw [List.length_append, List.length_singleton] at bound ⊢
  rcases Nat.lt_or_ge position calls.length with early | last
  · -- Any earlier call is one of those that submit nothing.
    rw [List.getElem?_append_left early] at asked
    exact absurd submits (quiet call (List.mem_of_getElem? asked))
  · omega

/-- Without a clearance a renewal fails, having submitted nothing and recorded nothing. -/
theorem hold_renewCertificate_of_uncleared {session : Option Session} {renewal : RenewalRequest}
    {arrivals : List Arrival} (uncleared : ¬ Nonempty (Clearance session renewal arrivals)) :
    ∃ stop later, (renewCertificate session renewal).hold { arrivals } = (.error stop, later) ∧
      (∀ call ∈ later.sent, ¬ call.Submits) ∧ later.recorded = none := by
  obtain ⟨calls, outcome, later, quiet, reached, held, through⟩ :=
    hold_clearRenewal session renewal { arrivals }
  cases outcome with
  | ok value => exact absurd (through value rfl) uncleared
  | error stop =>
    -- The part before the submission is all there is.
    refine ⟨stop, later, ?_, ?_, reached.recorded⟩
    · rw [renewCertificate_eq, Run.hold_bind_error held]
    · rw [reached.sent]
      exact quiet

/--
A renewal submits exactly what it has cleared: at most once, and at the very end.

It returns exactly if the submission is answered with a receipt, and then records what it returns.
-/
theorem renewCertificate_submits_cleared (session : Option Session) (renewal : RenewalRequest)
    (arrivals : List Arrival) :
    let held := (renewCertificate session renewal).on arrivals
    (∀ position call, held.2.sent[position]? = some call → call.Submits →
      position + 1 = held.2.sent.length) ∧
    ((∃ call ∈ held.2.sent, call.Submits) ↔ Nonempty (Clearance session renewal arrivals)) ∧
    (∀ clearance : Clearance session renewal arrivals,
      held.2.sent = clearance.calls ++ [clearance.post]) ∧
    (∀ requestId, held.1 = .ok requestId ↔
      ∃ (clearance : Clearance session renewal arrivals) (arrival : Arrival) (first : RequestRecord)
          (others : List RequestRecord), clearance.rest.head? = some arrival ∧
        arrival.reply.Tells SubmissionReceipt.check 201 ⟨first :: others⟩ ∧ first.id = requestId) ∧
    held.2.recorded = held.1.toOption := by
  intro held
  by_cases clear : Nonempty (Clearance session renewal arrivals)
  · -- With a clearance, its calls are followed by the submission and nothing else.
    obtain ⟨clearance⟩ := clear
    obtain ⟨outcome, later, renewed, sent, recorded, told⟩ :=
      hold_renewCertificate_of_clearance { arrivals } clearance
    -- Nothing was sent or recorded before the renewal.
    have through : held = (outcome, later) := renewed
    simp only [List.nil_append, Option.or_none] at sent recorded
    rw [through]
    refine ⟨fun position call asked submits => ?_, ⟨fun _ => ⟨clearance⟩, fun _ => ?_⟩,
      fun other => ?_, fun requestId => ⟨?_, ?_⟩, recorded⟩
    · rw [sent] at asked ⊢
      exact submits_last clearance.not_submits_calls asked submits
    · exact ⟨clearance.post, by rw [sent]; simp, rfl, rfl⟩
    · -- Any other clearance describes the same run.
      obtain ⟨_, _, again, otherSent, _⟩ := hold_renewCertificate_of_clearance { arrivals } other
      cases renewed.symm.trans again
      exact otherSent
    · exact fun succeeded => ⟨clearance, (told requestId).mp succeeded⟩
    · rintro ⟨other, receipt⟩
      obtain ⟨_, _, again, _, _, otherTold⟩ :=
        hold_renewCertificate_of_clearance { arrivals } other
      cases renewed.symm.trans again
      exact (otherTold requestId).mpr receipt
  · -- Without one, the renewal ends before its submission, and nothing it sends submits.
    obtain ⟨stop, later, renewed, quiet, recorded⟩ := hold_renewCertificate_of_uncleared clear
    have through : held = (.error stop, later) := renewed
    rw [through]
    refine ⟨fun position call asked submits => ?_, ⟨?_, fun found => absurd found clear⟩,
      fun clearance => absurd ⟨clearance⟩ clear, fun requestId => ⟨?_, ?_⟩, recorded⟩
    · exact absurd submits (quiet call (List.mem_of_getElem? asked))
    · rintro ⟨call, member, submits⟩
      exact absurd submits (quiet call member)
    · simp
    · rintro ⟨clearance, _⟩
      exact absurd ⟨clearance⟩ clear

end Manager

end Issuance
