import Issuance.Dialogue
import Issuance.Request
import Issuance.Service.Address
import Issuance.Service.Search
import Issuance.Service.Submission
import Issuance.Service.Upload

/-! The calls the service answers. Each is made once; whether to try again is up to the caller. -/

namespace Issuance

/-- The order in which the service is asked for a chain. -/
inductive ChainOrder where
  | leafFirst
  | rootFirst
  deriving DecidableEq, Repr

namespace ChainOrder

/-- The word on the wire. -/
def word : ChainOrder → String
  | leafFirst => "EE_FIRST"
  | rootFirst => "ROOT_FIRST"

/-- The words on the wire with their meanings. -/
def words : List (String × ChainOrder) := [leafFirst, rootFirst].map fun order => (order.word, order)

end ChainOrder

/-- The order to ask for: root first only where the caller wants that. -/
def ChainOption.order : ChainOption → ChainOrder
  | rootFirst => .rootFirst
  | rootLast | ignore => .leafFirst

/-- The headers of a call beyond the standard ones: that of the API key, if it goes with one. -/
def Call.headers (call : Call) : List (String × String) :=
  (call.apiKey.map fun key => (Endpoint.apiKeyHeader, key)).toList

namespace Failure

/-- A call that nothing answered in time. -/
def callTimedOut (text : String) : Failure :=
  .connection ⟨"Request to certificate service timed out", some text⟩

/-- A call that the transport failed on. -/
def callBroken (text : String) : Failure :=
  .connection ⟨"Failed to connect to certificate service", some text⟩

end Failure

namespace Client

/-- Makes one call; only a response counts as an answer. -/
def send (call : Call) : Run Response := do
  Run.log .debug "Certificate service request"
    [("method", .text call.method), ("path", .text call.path)]
  match ← Run.exchange call with
  | .response response => return response
  | .timeout text =>
    Run.log .error "Certificate service timeout" [("path", .text call.path), ("error", .text text)]
    Run.fail (.callTimedOut text)
  | .broken text =>
    Run.log .error "Certificate service connection error"
      [("path", .text call.path), ("error", .text text)]
    Run.fail (.callBroken text)
  | .abandoned reason => throw (.abandoned reason)

/-- Reads from a path with a session's key. -/
def get (session : Session) (path : String) (parameters : Option Members := none) : Run Response :=
  send { method := "GET", path, apiKey := some session.apiKey, parameters }

/-- Posts data to a path with a session's key. -/
def post (session : Session) (path : String) (body : Value) : Run Response :=
  send { method := "POST", path, apiKey := some session.apiKey, body := some body }

/-- Looks up the account behind an API key. -/
def account (apiKey : String) : Run Account := do
  let response ← send { method := "GET", path := Endpoint.userAccounts, apiKey := some apiKey }
  Run.ofOutcome response.decodeAccount

/-- Submits a new or renewed request. -/
def submit (session : Session) (submission : Submission) : Run SubmissionReceipt := do
  let response ← post session Endpoint.certificateRequests submission.payload
  Run.ofOutcome (response.decode SubmissionReceipt.check "certificate request" 201)

/-- Reads the status of a request. -/
def status (session : Session) (requestId : String) : Run RequestStatus := do
  let response ← get session (Endpoint.certificateRequest requestId)
  Run.ofOutcome (response.decode RequestStatus.check "certificate request status")

/-- Reads the record of a certificate. -/
def certificate (session : Session) (certificateId : String) : Run ManagedCertificate := do
  let response ← get session (Endpoint.certificate certificateId)
  Run.ofOutcome (response.decode ManagedCertificate.check "certificate lookup")

/-- Searches certificates. -/
def search (session : Session) (search : Search) : Run SearchResult := do
  let payload ← Run.ofPlatform search.encode
  let response ← post session Endpoint.certificateSearch payload
  Run.ofOutcome (response.decode SearchResult.check "certificate search")

/-- Looks up an application by its name. -/
def application (session : Session) (name : String) : Run Application := do
  let response ← get session (Endpoint.applicationByName name)
  Run.ofOutcome (response.decodeApplication name)

/-- Reads the issuing template behind an alias of an application. -/
def issuingTemplate (session : Session) (application templateAlias : String) : Run IssuingTemplate := do
  let response ← get session (Endpoint.issuingTemplate application templateAlias)
  Run.ofOutcome (response.decode IssuingTemplate.check "issuing template lookup")

/-- The parameters that ask for a chain. -/
def chainParameters (order : ChainOrder) : Members :=
  [("chainOrder", .text order.word), ("format", .text "PEM")]

/-- Fetches a certificate, with its chain if an order is given; every status is left to the caller. -/
def contents (session : Session) (certificateId : String) (order : Option ChainOrder := none) :
    Run Response :=
  get session (Endpoint.certificateContents certificateId) (order.map chainParameters)

/-- Uploads certificates; every status is left to the caller. -/
def upload (session : Session) (upload : Upload) : Run Response :=
  post session Endpoint.certificates upload.payload

end Client

end Issuance
