import Issuance.Number.General
import Issuance.Service.Response
import Issuance.Service.Status

/-! What can go wrong for a caller: each kind with what is needed to diagnose it, and its wording. -/

namespace Issuance

/-- A message, and what it adds about the case at hand. -/
structure Note where
  message : String
  details : Option String := none
  deriving DecidableEq, Repr

/-- A text with another one behind a separator, if that one is there and not empty. -/
def Note.extended (text separator : String) (addition : Option String) : String :=
  match addition with
  | none => text
  | some more => if more.isEmpty then text else text ++ separator ++ more

/-- The message, with the details behind a colon. -/
def Note.text (note : Note) : String := Note.extended note.message ": " note.details

/-- What an answer that was not the expected one means. -/
inductive Refusal where
  /-- No more than its status tells. -/
  | unexpected
  /-- The service rejects the data sent to it. -/
  | badData
  /-- The service cannot be used for the time being. -/
  | unavailable
  deriving DecidableEq, Repr

/-- What is known of the answer behind a refusal. -/
structure Evidence where
  status : Option Int := none
  reason : Option String := none
  errors : List ServiceError := []
  body : Option Bytes := none

/-- The evidence a response gives. -/
def Evidence.ofResponse (response : Response) : Evidence where
  status := some response.status
  reason := some response.reason
  errors := (serviceErrors? response.body).getD []
  body := some response.body

/-- Why an operation did not succeed. -/
inductive Failure where
  | general (note : Note)
  /-- The configuration is missing or unusable. -/
  | configuration (note : Note) (faults : List Fault)
  /-- No response arrived. -/
  | connection (note : Note)
  /-- The caller asks for what is contradictory or not supported. -/
  | validation (note : Note)
  /-- The API key is rejected, or its account has no company. -/
  | authentication (note : Note)
  /-- A body, a certificate or a signing request cannot be read. -/
  | decoding (note : Note) (faults : List Fault)
  /-- A certificate was issued for another key. -/
  | mismatch (note : Note)
  /-- Nothing goes by the key that was looked up. -/
  | notFound (note : Note) (resource key : Option String)
  /-- Several requests own certificates with one fingerprint. -/
  | ambiguous (fingerprint : String) (requestIds : List String)
  /-- Issuance or signing has not come to its end. -/
  | pending (pickupId : String) (status : Option String)
  /-- Issuance took longer than the caller would wait. -/
  | timedOut (pickupId : String) (timeout : Double)
  /-- The service has given up on the request. -/
  | issuanceFailed (pickupId : String) (status : RequestStatus)
  /-- The certificate has come out of another request since. -/
  | superseded (requestId certificateId latestRequestId : String) (fingerprint : Option String)
  /-- A certificate that was imported is not found exactly once. -/
  | importInconsistent (fingerprint : String) (found : Int)
  /-- The service has answered, but not as expected. -/
  | refused (refusal : Refusal) (note : Note) (evidence : Evidence)

namespace Failure

/-- The message of the kind of failure, and the details of the case. -/
def note : Failure → Note
  | general note | connection note | validation note | authentication note | mismatch note => note
  | configuration note _ | decoding note _ => note
  | notFound note .. => note
  | ambiguous .. => ⟨"More than one certificate request was found with the same fingerprint", none⟩
  | pending .. => ⟨"Issuance pending for certificate request", none⟩
  | timedOut .. => ⟨"Timed out waiting for certificate request", none⟩
  | issuanceFailed .. => ⟨"Certificate issuance failed", none⟩
  | superseded .. => ⟨"Certificate request is not the latest for its certificate", none⟩
  | importInconsistent .. => ⟨"Certificate was imported but could not be found on the platform", none⟩
  | refused _ note _ => note

/-- One line for each error the service tells of. -/
def errorLines (errors : List ServiceError) : String :=
  String.join (errors.map fun error =>
    "\nError Code: " ++ toString error.code ++ " Error: " ++ error.message)

/-- The wording of a failure. -/
def text (failure : Failure) : String :=
  let message := failure.note.message
  match failure with
  | ambiguous fingerprint requestIds =>
    message ++ " " ++ fingerprint ++ ": " ++ Literal.separated requestIds
  | pending pickupId status =>
    let named := message ++ " " ++ pickupId
    match status with
    | none => named
    | some word => if word.isEmpty then named else named ++ " (status: " ++ word ++ ")"
  | timedOut pickupId timeout => message ++ " " ++ pickupId ++ " after " ++ timeout.generalText ++ "s"
  | issuanceFailed pickupId status =>
    message ++ " for request " ++ pickupId ++ ". Status: " ++ status.literal
  | superseded requestId certificateId latestRequestId fingerprint =>
    Note.extended ("Certificate under request " ++ requestId) " with thumbprint " fingerprint ++
      " is not the latest under certificate " ++ certificateId ++ ". The latest request is " ++
      latestRequestId ++ ". This may happen when a revoked certificate is requested to be renewed"
  | importInconsistent fingerprint found =>
    message ++ " (fingerprint " ++ fingerprint ++ ", " ++ toString found ++ " matches)"
  | refused _ note evidence =>
    let status := match evidence.status with
      | none => ""
      | some code => ". Status: " ++ toString code
    Note.extended (message ++ status ++ errorLines evidence.errors) "\n" note.details
  | _ => failure.note.text

end Failure

end Issuance
