import Issuance.Schema.Check
import Issuance.Service.Payload

/-! The state of a certificate request at the service. -/

namespace Issuance

/-- How far a certificate request has come. -/
inductive IssuanceState where
  | requested
  | pending
  | issued
  | failed
  deriving DecidableEq, Repr

namespace IssuanceState

/-- The word on the wire. -/
def word : IssuanceState → String
  | requested => "REQUESTED"
  | pending => "PENDING"
  | issued => "ISSUED"
  | failed => "FAILED"

/-- The words on the wire with their meanings. -/
def words : List (String × IssuanceState) :=
  [requested, pending, issued, failed].map fun state => (state.word, state)

/-- Whether the service is still working on the request. -/
def inFlight : IssuanceState → Bool
  | requested | pending => true
  | issued | failed => false

end IssuanceState

/-- What the service tells of a certificate request. -/
structure RequestStatus where
  id : String := ""
  state : IssuanceState
  applicationId : String := ""
  templateId : String := ""
  certificateIds : List String := []
  errorInformation : Option Members := none

namespace RequestStatus

/-- Reads the answer to a status read. -/
def check : Check RequestStatus := .record fun members =>
  RequestStatus.mk <$> (field "id").withDefault "" .text members
    <*> (field "status").required (.choice IssuanceState.words) members
    <*> (fieldOr "applicationId" "application_id").withDefault "" .text members
    <*> (fieldOr "certificateIssuingTemplateId" "template_id").withDefault "" .text members
    <*> (fieldOr "certificateIds" "certificate_ids").withDefault [] (.list .text) members
    <*> (fieldOr "errorInformation" "error_information").optional (.mapping .anything) members

/-- The wire form of a status. -/
def payload (status : RequestStatus) : Value := Payload.record [
  ("id", some (.text status.id)),
  ("status", some (.text status.state.word)),
  ("applicationId", some (.text status.applicationId)),
  ("certificateIssuingTemplateId", some (.text status.templateId)),
  ("certificateIds", some (Payload.texts status.certificateIds)),
  ("errorInformation", status.errorInformation.map fun found => (Value.record found).wire)]

/-- The free-form data of a status. -/
def freeForm (status : RequestStatus) : List Value := Payload.values (status.errorInformation.getD [])

/-- The wire form of a status, as far as the platform writes it. -/
def encode (status : RequestStatus) : Except Lapse Value :=
  Payload.within status.freeForm status.payload

/-- The first certificate that came out of the request; empty until there is one. -/
def certificateId (status : RequestStatus) : String := status.certificateIds.headD ""

/-- The error information as data. -/
def errorValue (status : RequestStatus) : Value :=
  match status.errorInformation with
  | some found => .record found
  | none => .null

/-- The literal of a status in a message. -/
def literal (status : RequestStatus) : String :=
  "CertificateStatus(" ++ Literal.separated [
    "id=" ++ Text.quoted status.id,
    "status=<IssuanceStatus." ++ status.state.word ++ ": " ++ Text.quoted status.state.word ++ ">",
    "application_id=" ++ Text.quoted status.applicationId,
    "template_id=" ++ Text.quoted status.templateId,
    "certificate_ids=" ++ Literal.ofList (status.certificateIds.map Text.quoted),
    "error_information=" ++ Literal.ofValue status.errorValue] ++ ")"

/-- A status as data, each member under its name. -/
def data (status : RequestStatus) : Value := .record [
  ("id", .text status.id),
  ("status", .text status.state.word),
  ("application_id", .text status.applicationId),
  ("template_id", .text status.templateId),
  ("certificate_ids", .texts status.certificateIds),
  ("error_information", status.errorValue)]

end RequestStatus

end Issuance
