import Issuance.Lifecycle.Authentication
import Issuance.Lifecycle.Import
import Issuance.Lifecycle.Listing
import Issuance.Lifecycle.Renewal
import Issuance.Lifecycle.Request
import Issuance.Lifecycle.Retrieval

/-! Runs of operations over named certificate requests, which keep the pickup ids recorded on them. -/

namespace Issuance

/-- Certificate requests by name. -/
abbrev Ledger := List (String × CertificateRequest)

namespace Ledger

/-- The request with a name. -/
def request? (ledger : Ledger) (name : String) : Option CertificateRequest := ledger.lookup name

/-- Records a pickup id on the request with a name. -/
def record (ledger : Ledger) (name pickupId : String) : Ledger :=
  ledger.map fun (key, request) =>
    (key, if key = name then { request with pickupId := some pickupId } else request)

end Ledger

/-- What a manager is asked to do. -/
inductive Operation where
  | authenticate (apiKey : Option String)
  | readZone (zone : Option String)
  | request (name : String)
  | retrieve (name : String)
  /-- A renewal with its own request, or with a named one in its place. -/
  | renew (renewal : RenewalRequest) (name : Option String)
  | importCertificate (request : ImportRequest)
  | list (filter : Option CertificateFilter) (zone : Option String)
  | await (requestId : Option String) (timeout : Double)

/-- What an operation gives. -/
inductive Operation.Result where
  | session (session : Session)
  | template (template : IssuingTemplate)
  | pickup (pickupId : String)
  | collection (collection : PemCollection)
  | imported (certificate : ImportedCertificate)
  | listing (certificates : List CertificateInfo)
  | issued (certificateId : Option String)

/-- Where a run of operations stands. -/
structure Desk where
  manager : Manager
  /-- The time listings are made at. -/
  now : Moment
  session : Option Session := none
  ledger : Ledger := []

namespace Operation

/-- The named request an operation works on. -/
def requestName? : Operation → Option String
  | .request name | .retrieve name => some name
  | .renew _ name => name
  | _ => none

/-- Holds the dialogue of an operation. A name that is not in the ledger stands for an empty request. -/
def run (desk : Desk) : Operation → Run Result
  | .authenticate apiKey => .session <$> Manager.authenticate apiKey
  | .readZone zone => .template <$> desk.manager.readZone desk.session zone
  | .request name =>
    .pickup <$> desk.manager.requestCertificate desk.session ((desk.ledger.request? name).getD {})
  | .retrieve name =>
    .collection <$> desk.manager.retrieveCertificate desk.session
      ((desk.ledger.request? name).getD {})
  | .renew renewal name =>
    .pickup <$> Manager.renewCertificate desk.session
      { renewal with request := (name.bind desk.ledger.request?).or renewal.request }
  | .importCertificate wanted => .imported <$> desk.manager.importCertificate desk.session wanted
  | .list filter zone =>
    .listing <$> desk.manager.listCertificates desk.now desk.session filter zone
  | .await requestId timeout =>
    .issued <$> Polling.awaitIssuance desk.manager.sleeper desk.session desk.manager.pollInterval
      requestId timeout

end Operation

namespace Desk

/-- The desk after an operation: a session that was opened is taken over, a recorded pickup id is kept. -/
def after (desk : Desk) (operation : Operation) (outcome : Except Stop Operation.Result)
    (dialogue : Dialogue) : Desk :=
  let ledger := match operation.requestName?, dialogue.recorded with
    | some name, some pickupId => desk.ledger.record name pickupId
    | _, _ => desk.ledger
  let session := match outcome with
    | .ok (.session session) => some session
    | _ => desk.session
  { desk with session, ledger }

/-- Performs an operation, given the replies that are to come. -/
def perform (desk : Desk) (operation : Operation) (arrivals : List Arrival) :
    Except Stop Operation.Result × Dialogue × Desk :=
  let (outcome, dialogue) := (operation.run desk).on arrivals
  (outcome, dialogue, desk.after operation outcome dialogue)

end Desk

end Issuance
