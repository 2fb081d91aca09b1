import Issuance.Chain
import Issuance.Lifecycle.Manager

/-! The retrieval of an issued certificate: by its id, by the pickup id of its request, or by thumbprint. -/

namespace Issuance

namespace Failure

/-- A fingerprint that resolved to nothing. -/
def emptyMatch (thumbprint : String) : Failure :=
  .decoding ⟨"Fingerprint match has neither a request id nor a certificate id", some thumbprint⟩ []

/-- A wait for issuance that gave nothing. -/
def issuanceWithoutId (pickupId : String) : Failure :=
  .decoding ⟨"Issuance finished without a certificate id", some pickupId⟩ []

/-- A request that names nothing to retrieve. -/
def nothingToRetrieve : Failure :=
  .validation ⟨"Couldn't retrieve certificate because pickup id, certificate id " ++
    "and thumbprint are all empty", none⟩

/-- A fetch that the service refuses. -/
def retrievalRefused (response : Response) : Failure :=
  .refused .unexpected
    ⟨"Failed to retrieve certificate", filled? (some (Utf8.decodeLossy response.body))⟩
    (.ofResponse response)

end Failure

namespace Manager

/-- Fetches one certificate by its id, whatever the order of a chain. -/
def fetchCertificate (session : Session) (certificateId : String) : Run PemCollection := do
  let response ← Client.contents session certificateId
  if response.status = 200 then Chain.assemble response.body .ignore
  else Run.fail (.retrievalRefused response)

/-- Fetches a certificate with its chain, and checks the leaf against the signing request. -/
def fetchChain (session : Session) (request : CertificateRequest) (pickupId certificateId : String) :
    Run PemCollection := do
  let response ← Client.contents session certificateId (some request.chainOption.order)
  if response.status = 409 then
    Run.log .warning "Certificate not yet signed" [("request_id", .text pickupId)]
    Run.fail (.pending pickupId (some IssuanceState.issued.word))
  else if response.status ≠ 200 then Run.fail (.retrievalRefused response)
  else
    let collection ← Chain.assemble response.body request.chainOption
    Run.ofOutcome (Chain.verifyLeaf request collection)
    Run.log .info "Certificate retrieved"
      [("request_id", .text pickupId), ("certificate_id", .text certificateId),
        ("chain_length", .int collection.blocks.length)]
    return collection

/-- Waits for the issuance of a submitted request, then fetches what came out of it. -/
def retrieveSubmitted (manager : Manager) (session : Session) (request : CertificateRequest)
    (pickupId : String) : Run PemCollection := do
  match ← Polling.awaitIssuance manager.sleeper (some session) manager.pollInterval
      (some pickupId) request.patience with
  | none => Run.fail (.issuanceWithoutId pickupId)
  | some certificateId => fetchChain session request pickupId certificateId

/-- Retrieves what a thumbprint resolves to, and records the pickup id it leads to. -/
def retrieveByThumbprint (manager : Manager) (session : Session) (request : CertificateRequest)
    (thumbprint : String) : Run PemCollection := do
  let found ← Resolution.resolveFingerprint session thumbprint
  match filled? (some found.requestId), found.certificateId with
  | some pickupId, _ =>
    -- The pickup id is recorded before the wait, so that a later call can resume there.
    Run.recordPickup pickupId
    manager.retrieveSubmitted session { request with pickupId := some pickupId } pickupId
  | none, some certificateId => fetchCertificate session certificateId
  | none, none => Run.fail (.emptyMatch thumbprint)

/-- Retrieves a certificate: by its id if there is one, else by pickup id, else by thumbprint. -/
def retrieveCertificate (manager : Manager) (session : Option Session)
    (request : CertificateRequest) : Run PemCollection := do
  let session ← Run.ofOutcome (authenticated session "retrieve a certificate")
  match filled? request.certificateId, filled? request.pickupId, filled? request.thumbprint with
  | some certificateId, _, _ => fetchCertificate session certificateId
  | none, some pickupId, _ => manager.retrieveSubmitted session request pickupId
  | none, none, some thumbprint => manager.retrieveByThumbprint session request thumbprint
  | none, none, none => Run.fail .nothingToRetrieve

end Manager

end Issuance
