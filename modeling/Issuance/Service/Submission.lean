import Issuance.Schema.Check
import Issuance.Service.Payload

/-! The submission of a new or renewed certificate request, and the records the service makes of it. -/

namespace Issuance

/-- Who submits a request: the kind of client and where it runs. -/
structure ClientInformation where
  type : String
  identifier : String
  deriving DecidableEq, Repr

/-- The workload and the node a certificate is for. -/
structure UsageMetadata where
  appName : String
  nodeName : Option String := none
  deriving DecidableEq, Repr

/-- What is sent to ask for a certificate. -/
structure Submission where
  csr : Option String := none
  applicationId : String
  templateId : Option String := none
  existingCertificateId : Option String := none
  clientInformation : Option ClientInformation := none
  usageMetadata : Option (List UsageMetadata) := none
  reuseCsr : Option Bool := none
  validityPeriod : Option String := none
  deriving DecidableEq, Repr

/-- The record of one request the service has taken. -/
structure RequestRecord where
  id : String
  status : Option String := none
  deriving DecidableEq, Repr

/-- The records made for a submission, at least one. -/
structure SubmissionReceipt where
  records : List RequestRecord
  deriving DecidableEq, Repr

namespace ClientInformation

/-- Reads client information. -/
def check : Check ClientInformation := .record fun members =>
  ClientInformation.mk <$> (field "type").required .text members
    <*> (field "identifier").required .text members

/-- The wire form of client information. -/
def payload (information : ClientInformation) : Value := Payload.record [
  ("type", some (.text information.type)),
  ("identifier", some (.text information.identifier))]

/-- Client information as data, each member under its name. -/
def data (information : ClientInformation) : Value := .record [
  ("type", .text information.type),
  ("identifier", .text information.identifier)]

end ClientInformation

namespace UsageMetadata

/-- Reads usage metadata. -/
def check : Check UsageMetadata := .record fun members =>
  UsageMetadata.mk <$> (fieldOr "appName" "app_name").required .text members
    <*> (fieldOr "nodeName" "node_name").optional .text members

/-- The wire form of usage metadata. -/
def payload (metadata : UsageMetadata) : Value := Payload.record [
  ("appName", some (.text metadata.appName)),
  ("nodeName", metadata.nodeName.map .text)]

/-- Usage metadata as data. -/
def data (metadata : UsageMetadata) : Value := .record [
  ("app_name", .text metadata.appName),
  ("node_name", .textOrNull metadata.nodeName)]

end UsageMetadata

namespace Submission

/-- Reads a submission. -/
def check : Check Submission := .record fun members =>
  Submission.mk <$> (fieldOr "certificateSigningRequest" "csr").optional .text members
    <*> (fieldOr "applicationId" "application_id").required .text members
    <*> (fieldOr "certificateIssuingTemplateId" "template_id").optional .text members
    <*> (fieldOr "existingCertificateId" "existing_certificate_id").optional .text members
    <*> (fieldOr "apiClientInformation" "api_client_information").optional
      ClientInformation.check members
    <*> (fieldOr "certificateUsageMetadata" "certificate_usage_metadata").optional
      (.list UsageMetadata.check) members
    <*> (fieldOr "reuseCSR" "reuse_csr").optional .boolean members
    <*> (fieldOr "validityPeriod" "validity_period").optional .text members

/-- The wire form of a submission. -/
def payload (submission : Submission) : Value := Payload.record [
  ("certificateSigningRequest", submission.csr.map .text),
  ("applicationId", some (.text submission.applicationId)),
  ("certificateIssuingTemplateId", submission.templateId.map .text),
  ("existingCertificateId", submission.existingCertificateId.map .text),
  ("apiClientInformation", submission.clientInformation.map ClientInformation.payload),
  ("certificateUsageMetadata",
    submission.usageMetadata.map fun found => .list (found.map UsageMetadata.payload)),
  ("reuseCSR", submission.reuseCsr.map .bool),
  ("validityPeriod", submission.validityPeriod.map .text)]

/-- A submission as data. -/
def data (submission : Submission) : Value := .record [
  ("csr", .textOrNull submission.csr),
  ("application_id", .text submission.applicationId),
  ("template_id", .textOrNull submission.templateId),
  ("existing_certificate_id", .textOrNull submission.existingCertificateId),
  ("api_client_information", .orNull (submission.clientInformation.map ClientInformation.data)),
  ("certificate_usage_metadata",
    .orNull (submission.usageMetadata.map fun found => .list (found.map UsageMetadata.data))),
  ("reuse_csr", .orNull (submission.reuseCsr.map .bool)),
  ("validity_period", .textOrNull submission.validityPeriod)]

end Submission

namespace RequestRecord

/-- Reads the record of a request. -/
def check : Check RequestRecord := .record fun members =>
  RequestRecord.mk <$> (field "id").required .text members
    <*> (field "status").optional .text members

/-- The wire form of the record of a request. -/
def payload (record : RequestRecord) : Value := Payload.record [
  ("id", some (.text record.id)),
  ("status", record.status.map .text)]

/-- The record of a request as data. -/
def data (record : RequestRecord) : Value := .record [
  ("id", .text record.id),
  ("status", .textOrNull record.status)]

end RequestRecord

namespace SubmissionReceipt

/-- Reads the answer to a submission. -/
def check : Check SubmissionReceipt := .record fun members =>
  SubmissionReceipt.mk <$> (fieldOr "certificateRequests" "certificate_requests").required
    (.nonemptyList RequestRecord.check) members

/-- The wire form of a receipt. -/
def payload (receipt : SubmissionReceipt) : Value := Payload.record [
  ("certificateRequests", some (.list (receipt.records.map RequestRecord.payload)))]

/-- The id of the first record. -/
def requestId (receipt : SubmissionReceipt) : String := (receipt.records.head?.map (·.id)).getD ""

/-- A receipt as data. -/
def data (receipt : SubmissionReceipt) : Value := .record [
  ("certificate_requests", .list (receipt.records.map RequestRecord.data))]

end SubmissionReceipt

end Issuance
