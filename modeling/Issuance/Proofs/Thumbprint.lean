import Issuance.Proofs.Failure

/-! A retrieval by thumbprint goes on with the request or the certificate the thumbprint leads to. -/

namespace Issuance

/-- The call that fetches one certificate by itself, in no order of a chain. -/
def Call.single (session : Session) (certificateId : String) : Call :=
  reading session (Endpoint.certificateContents certificateId)

theorem Client.hold_contents_single (session : Session) (dialogue : Dialogue)
    (certificateId : String) :
    (contents session certificateId).hold dialogue =
      (dialogue.learns .ok, dialogue.called (.single session certificateId)) :=
  hold_send (.single session certificateId) dialogue

namespace Manager

/-- What the fetch of one certificate makes of the response to its call. -/
def certificateFrom (response : Response) : Outcome PemCollection :=
  if response.status = 200 then collected response.body else .error (.retrievalRefused response)

/-- The fetch of one certificate is one call, and what is made of its response. -/
theorem hold_fetchCertificate (session : Session) (certificateId : String) (dialogue : Dialogue) :
    ∃ log, (fetchCertificate session certificateId).hold dialogue =
      (dialogue.learns certificateFrom,
        { dialogue.called (.single session certificateId) with log }) := by
  have fetched := Client.hold_contents_single session dialogue certificateId
  rw [Dialogue.learns_eq_bind]
  unfold fetchCertificate
  cases learned : dialogue.learns .ok with
  | error stop =>
    rw [learned] at fetched
    exact ⟨_, Run.hold_bind_error fetched⟩
  | ok response =>
    rw [learned] at fetched
    rw [Run.hold_bind_ok fetched]
    simp only [Except.bind, certificateFrom]
    -- Only a response with the status for success has a body to read.
    by_cases ok : response.status = 200
    · simp only [if_pos ok]
      exact hold_assemble response.body .ignore _
    · simp only [if_neg ok]
      exact ⟨_, rfl⟩

section Printed

variable {manager : Manager} {session : Session} {request : CertificateRequest}
  {thumbprint : String} {dialogue middle : Dialogue}

/-- A request with the id of a certificate is retrieved by a fetch of that one. -/
theorem hold_retrieveCertificate_certified {certificateId : String}
    (company : session.account.company.isSome)
    (certified : filled? request.certificateId = some certificateId) (dialogue : Dialogue) :
    (manager.retrieveCertificate (some session) request).hold dialogue =
      (fetchCertificate session certificateId).hold dialogue := by
  unfold retrieveCertificate
  rw [Run.hold_bind_ok (hold_authenticated company "retrieve a certificate" dialogue), certified]

/-- A request that names nothing ends its retrieval at once. -/
theorem hold_retrieveCertificate_unnamed (company : session.account.company.isSome)
    (uncertified : filled? request.certificateId = none)
    (unsubmitted : filled? request.pickupId = none)
    (unprinted : filled? request.thumbprint = none) (dialogue : Dialogue) :
    (manager.retrieveCertificate (some session) request).hold dialogue =
      (.error (.failed .nothingToRetrieve), dialogue) := by
  unfold retrieveCertificate
  rw [Run.hold_bind_ok (hold_authenticated company "retrieve a certificate" dialogue), uncertified,
    unsubmitted, unprinted]
  rfl

/-- A request with a thumbprint and no id is retrieved by its thumbprint. -/
theorem hold_retrieveCertificate_printed (company : session.account.company.isSome)
    (uncertified : filled? request.certificateId = none)
    (unsubmitted : filled? request.pickupId = none)
    (printed : filled? request.thumbprint = some thumbprint) (dialogue : Dialogue) :
    (manager.retrieveCertificate (some session) request).hold dialogue =
      (manager.retrieveByThumbprint session request thumbprint).hold dialogue := by
  unfold retrieveCertificate
  rw [Run.hold_bind_ok (hold_authenticated company "retrieve a certificate" dialogue), uncertified,
    unsubmitted, printed]

/-- The run that a retrieval comes down to, by what it finds first that its request names. -/
inductive ComesTo (manager : Manager) (session : Session) (request : CertificateRequest) :
    Run PemCollection → Prop
  | certified {certificateId : String}
      (certified : filled? request.certificateId = some certificateId) :
      ComesTo manager session request (fetchCertificate session certificateId)
  | submitted {pickupId : String} (uncertified : filled? request.certificateId = none)
      (submitted : filled? request.pickupId = some pickupId) :
      ComesTo manager session request (manager.retrieveSubmitted session request pickupId)
  | printed {thumbprint : String} (uncertified : filled? request.certificateId = none)
      (unsubmitted : filled? request.pickupId = none)
      (printed : filled? request.thumbprint = some thumbprint) :
      ComesTo manager session request (manager.retrieveByThumbprint session request thumbprint)
  | unnamed (uncertified : filled? request.certificateId = none)
      (unsubmitted : filled? request.pickupId = none)
      (unprinted : filled? request.thumbprint = none) :
      ComesTo manager session request (Run.fail .nothingToRetrieve)

/-- In a session with a company, a retrieval is one of these runs, from wherever it starts. -/
theorem hold_retrieveCertificate_comesTo (manager : Manager) (request : CertificateRequest)
    (company : session.account.company.isSome) (dialogue : Dialogue) :
    ∃ run, manager.ComesTo session request run ∧
      (manager.retrieveCertificate (some session) request).hold dialogue = run.hold dialogue := by
  -- The cases are those of the retrieval, in the order in which it looks at its request.
  cases certified : filled? request.certificateId with
  | some certificateId =>
    exact ⟨_, .certified certified, hold_retrieveCertificate_certified company certified dialogue⟩
  | none =>
    cases submitted : filled? request.pickupId with
    | some pickupId =>
      exact ⟨_, .submitted certified submitted,
        hold_retrieveCertificate_submitted company certified submitted dialogue⟩
    | none =>
      cases printed : filled? request.thumbprint with
      | some thumbprint =>
        exact ⟨_, .printed certified submitted printed,
          hold_retrieveCertificate_printed company certified submitted printed dialogue⟩
      | none =>
        exact ⟨_, .unnamed certified submitted printed,
          hold_retrieveCertificate_unnamed company certified submitted printed dialogue⟩

/-- Where a thumbprint leads to a request, its id is recorded and it is retrieved as submitted. -/
theorem hold_retrieveByThumbprint_request {found : FingerprintMatch}
    (resolved : (Resolution.resolveFingerprint session thumbprint).hold dialogue =
      (.ok found, middle)) (filled : found.requestId ≠ "") :
    (manager.retrieveByThumbprint session request thumbprint).hold dialogue =
      (manager.retrieveSubmitted session { request with pickupId := some found.requestId }
        found.requestId).hold { middle with recorded := some found.requestId } := by
  unfold retrieveByThumbprint
  rw [Run.hold_bind_ok resolved, filled?_eq_some.mpr ⟨rfl, filled⟩]
  rfl

/-- Where a thumbprint leads to neither, there is nothing to retrieve. -/
theorem hold_retrieveByThumbprint_nothing
    (resolved : (Resolution.resolveFingerprint session thumbprint).hold dialogue =
      (.ok ⟨"", none⟩, middle)) :
    (manager.retrieveByThumbprint session request thumbprint).hold dialogue =
      (.error (.failed (.emptyMatch thumbprint)), middle) := by
  unfold retrieveByThumbprint
  rw [Run.hold_bind_ok resolved]
  rfl

/-- Where a thumbprint leads to a certificate alone, that certificate is fetched. -/
theorem hold_retrieveByThumbprint_certificate {certificateId : String}
    (resolved : (Resolution.resolveFingerprint session thumbprint).hold dialogue =
      (.ok ⟨"", some certificateId⟩, middle)) :
    (manager.retrieveByThumbprint session request thumbprint).hold dialogue =
      (fetchCertificate session certificateId).hold middle := by
  unfold retrieveByThumbprint
  rw [Run.hold_bind_ok resolved]
  rfl

end Printed

/--
A retrieval by thumbprint goes on with the request that it is led to, and has recorded.

One that is led to no request records nothing, and tells of none if it fails.
-/
theorem hold_retrieveByThumbprint_recorded (manager : Manager) (session : Session)
    (request : CertificateRequest) (thumbprint : String) (dialogue : Dialogue) :
    (((manager.retrieveByThumbprint session request thumbprint).hold dialogue).2.recorded =
        dialogue.recorded ∧ (∀ requestId, ¬ LeadsToRequest dialogue.arrivals requestId) ∧
      ∀ failure, ((manager.retrieveByThumbprint session request thumbprint).hold dialogue).1 =
        .error (.failed failure) → failure.OfResolution) ∨
      ∃ requestId log, requestId ≠ "" ∧ LeadsToRequest dialogue.arrivals requestId ∧
        (manager.retrieveByThumbprint session request thumbprint).hold dialogue =
          (manager.retrieveSubmitted session { request with pickupId := some requestId }
            requestId).hold { dialogue.called (.thumbprintSearch session thumbprint) with
              log, recorded := some requestId } := by
  obtain ⟨log, resolved⟩ :=
    Resolution.hold_resolveFingerprint_called session thumbprint dialogue
  have leads (requestId : String) : _ ↔ LeadsToRequest dialogue.arrivals requestId :=
    Resolution.judgedSearch_requestId thumbprint dialogue
  have kept := dialogue.called_recorded (.thumbprintSearch session thumbprint)
  rcases judged : Resolution.judgedSearch thumbprint dialogue with stop | ⟨requestId, certificate⟩
  · rw [judged] at resolved
    have stopped : (manager.retrieveByThumbprint session request thumbprint).hold dialogue = _ :=
      Run.hold_bind_error resolved
    rw [stopped]
    refine .inl ⟨kept, fun requestId told => ?_, fun failure failed => ?_⟩
    · obtain ⟨_, _, matched, _⟩ := (leads requestId).mpr told
      rw [judged] at matched
      cases matched
    · cases failed
      apply (Resolution.failsOnly_resolveFingerprint session thumbprint).of_failed
      rw [resolved]
  · rw [judged] at resolved
    by_cases empty : requestId = ""
    · -- Whether there is a certificate to fetch or not, there is no request to record.
      subst empty
      have astray : ∀ requestId, ¬ LeadsToRequest dialogue.arrivals requestId := by
        intro requestId told
        obtain ⟨filled, _, matched, named⟩ := (leads requestId).mpr told
        rw [judged] at matched
        cases matched
        exact filled named.symm
      cases certificate with
      | none =>
        rw [hold_retrieveByThumbprint_nothing resolved]
        refine .inl ⟨kept, astray, fun failure failed => ?_⟩
        cases failed
        exact .call (.decoding _ _)
      | some certificateId =>
        rw [hold_retrieveByThumbprint_certificate resolved]
        refine .inl ⟨?_, astray, fun failure failed =>
          .call ((failsOnly_fetchCertificate session certificateId).of_failed failed)⟩
        obtain ⟨log, fetched⟩ := hold_fetchCertificate session certificateId _
        rw [fetched, Dialogue.called_recorded]
        exact kept
    · exact .inr ⟨requestId, log, empty, (leads requestId).mp ⟨empty, _, judged, rfl⟩,
        hold_retrieveByThumbprint_request resolved empty⟩

end Manager

end Issuance
