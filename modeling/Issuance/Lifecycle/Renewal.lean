import Issuance.Lifecycle.Manager

/-! The renewal of a certificate: only of the latest request behind it, and only with a new signing request. -/

namespace Issuance

namespace Failure

/-- A renewal without a signing request of its own. -/
def renewalWithoutCsr : Failure :=
  .validation ⟨"reuseCSR option is not currently available for the renew certificate " ++
    "operation. A new CSR must be provided in the request", none⟩

/-- A request that lacks what its renewal needs. -/
def renewalIncomplete (member requestId : String) (state : IssuanceState) : Failure :=
  .notFound ⟨"Failed to submit renewal request for certificate: " ++ member ++
    " is empty, certificate status is " ++ state.word, none⟩ (some member) (some requestId)

end Failure

namespace RequestStatus

/-- The first member that a renewal needs and the status lacks, by its name on the wire. -/
def missingForRenewal? (status : RequestStatus) : Option String :=
  if status.certificateId.isEmpty then some "certificateId"
  else if status.applicationId.isEmpty then some "applicationId"
  else if status.templateId.isEmpty then some "templateId"
  else none

end RequestStatus

namespace Manager

/-- What is submitted to renew the certificate of an earlier request. -/
def renewalSubmission (request : CertificateRequest) (csr : String) (previous : RequestStatus) :
    Submission where
  csr := some csr
  applicationId := previous.applicationId
  templateId := some previous.templateId
  existingCertificateId := some previous.certificateId
  usageMetadata := usageMetadata request.location
  reuseCsr := some false

/-- Submits a renewal, and records the pickup id it is given on the new request. -/
def renewCertificate (session : Option Session) (renewal : RenewalRequest) : Run String := do
  let session ← Run.ofOutcome (authenticated session "renew a certificate")
  match renewal.request, filled? (renewal.request.bind (·.csr)) with
  | some request, some csr =>
    let requestId ← Resolution.renewalTarget (some session) renewal
    let previous ← Client.status session requestId
    match previous.missingForRenewal? with
    | some member => Run.fail (.renewalIncomplete member requestId previous.state)
    | none =>
      -- Nothing is submitted before the certificate is known to come from this very request.
      let _ ← Resolution.verifyLineage session previous.certificateId requestId renewal.thumbprint
      let receipt ← Client.submit session (renewalSubmission request csr previous)
      Run.recordPickup receipt.requestId
      Run.log .info "Renewal request submitted"
        [("previous_request_id", .text requestId), ("certificate_id", .text previous.certificateId),
          ("request_id", .text receipt.requestId)]
      return receipt.requestId
  | _, _ => Run.fail .renewalWithoutCsr

end Manager

end Issuance
