import Issuance.Chain
import Issuance.Lifecycle.Manager

/-! The import of a certificate that was issued elsewhere. -/

namespace Issuance

namespace Failure

/-- A text that holds no certificate to import. -/
def unreadableCertificate : Failure := .decoding ⟨"Can't parse certificate", none⟩ []

/-- A service that cannot be used for the time being. -/
def unavailable (details : Option String) (evidence : Evidence) : Failure :=
  .refused .unavailable ⟨"Certificate service temporarily unavailable", details⟩ evidence

/-- A certificate that the service rejects. -/
def importRejected (response : Response) : Failure :=
  .refused .badData ⟨"Certificate can't be imported", none⟩ (.ofResponse response)

/-- An answer to an upload that tells of no success. -/
def importRefused (response : Response) : Failure :=
  .refused .unexpected ⟨"Certificate service error", none⟩ (.ofResponse response)

/-- An upload that was answered, but not with its one certificate. -/
def notImported (response : Response) : Failure :=
  .refused .badData ⟨"Certificate was not imported for an unknown reason", none⟩
    (.ofResponse response)

end Failure

namespace Manager

/-- The upload of one certificate. -/
def uploadOf (manager : Manager) (request : ImportRequest) (certificate : X509.Certificate)
    (applicationId : String) : Upload where
  certificates := [⟨String.ofList (Base64.encode certificate.der), [applicationId],
    manager.clientInformation request.customFields⟩]

/-- The application to import into: the given one, else that of the zone. -/
def applicationFor (manager : Manager) (session : Session) (request : ImportRequest) : Run String := do
  match filled? request.applicationId with
  | some applicationId => return applicationId
  | none =>
    let zone ← Run.ofOutcome (manager.zoneFor request.zone)
    return (← Client.application session zone.application).id

/-- What the answer to an upload means; only one certificate uploaded is a success. -/
def uploadOutcome (response : Response) : Outcome Unit :=
  let status := response.status
  if status = 400 ∨ status = 403 ∨ status = 409 then .error (.importRejected response)
  else if 500 ≤ status ∧ status < 600 then .error (.unavailable none (.ofResponse response))
  else if !response.isSuccess then .error (.importRefused response)
  else do
    let receipt ← decodeBody UploadReceipt.check "certificate import" response.body
    if receipt.certificates.length = 1 then .ok () else .error (.notImported response)

/-- Uploads certificates; a service that does not answer is unavailable. -/
def upload (session : Session) (upload : Upload) : Run Response :=
  tryCatch (Client.upload session upload) fun
    | .failed (.connection note) => Run.fail (.unavailable note.details {})
    | stop => throw stop

/-- Imports a certificate, and looks it up again once the service has settled. -/
def importCertificate (manager : Manager) (session : Option Session) (request : ImportRequest) :
    Run ImportedCertificate := do
  let session ← Run.ofOutcome (authenticated session "import a certificate")
  match X509.Certificate.ofText? (Utf8.encode request.certificateData) with
  | none => Run.fail .unreadableCertificate
  | some certificate =>
    let applicationId ← manager.applicationFor session request
    let response ← upload session (manager.uploadOf request certificate applicationId)
    Run.ofOutcome (uploadOutcome response)
    -- The service finds a certificate only some time after it has taken it.
    Run.sleep manager.sleeper manager.settleDelay
    let found ← Resolution.searchByFingerprint session certificate.fingerprint
    match found.certificates with
    | [imported] =>
      Run.log .info "Certificate imported"
        [("certificate_id", .text imported.id), ("fingerprint", .text certificate.fingerprint),
          ("application_id", .text applicationId)]
      return ⟨imported.subjectCn, imported.id⟩
    | others => Run.fail (.importInconsistent certificate.fingerprint others.length)

end Manager

end Issuance
