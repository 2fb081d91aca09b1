import Issuance.Lifecycle.Manager

/-! The submission of a certificate request. -/

namespace Issuance

namespace Failure

/-- A signing request that the service would have to make. -/
def serviceGeneratedCsr : Failure :=
  .validation ⟨"Service generated CSR is not supported by the certificate service", none⟩

/-- A request without a signing request. -/
def missingCsr : Failure := .validation ⟨"A CSR is required to request a certificate", none⟩

end Failure

namespace Manager

/-- A validity of some hours, as a duration; no validity at all if there are none. -/
def validityPeriod (hours : Int) : Except Lapse (Option String) :=
  if 0 < hours then (Platform.decimal hours).map fun count => some ("PT" ++ count ++ "H")
  else .ok none

/-- What is submitted for a request. -/
def submission (manager : Manager) (request : CertificateRequest) (csr applicationId : String)
    (templateId validityPeriod : Option String) : Submission where
  csr := some csr
  applicationId
  templateId
  clientInformation := some (manager.clientInformation request.customFields)
  usageMetadata := usageMetadata request.location
  validityPeriod

/-- Submits a request, and records the pickup id it is given. -/
def requestCertificate (manager : Manager) (session : Option Session)
    (request : CertificateRequest) : Run String := do
  if request.csrOrigin = .serviceGenerated then Run.fail .serviceGeneratedCsr
  else
    let session ← Run.ofOutcome (authenticated session "request a certificate")
    match filled? request.csr with
    | none => Run.fail .missingCsr
    | some csr =>
      let zone ← Run.ofOutcome (manager.zoneFor request.zone)
      let (applicationId, templateId) ← resolveZone session zone
      let validity ← Run.ofPlatform (validityPeriod request.validityHours)
      let receipt ← Client.submit session
        (manager.submission request csr applicationId templateId validity)
      Run.recordPickup receipt.requestId
      Run.log .info "Certificate request submitted"
        [("request_id", .text receipt.requestId), ("zone", .text zone.text)]
      return receipt.requestId

end Manager

end Issuance
