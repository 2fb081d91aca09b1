import Issuance.Service.Submission

/-! The upload of certificates that were issued elsewhere. -/

namespace Issuance

/-- One certificate to upload, in base64 of its DER form. -/
structure UploadEntry where
  certificate : String
  applicationIds : List String
  clientInformation : ClientInformation
  deriving DecidableEq, Repr

/-- The certificates of one upload. -/
structure Upload where
  certificates : List UploadEntry
  deriving DecidableEq, Repr

/-- What the service tells of the certificates it has taken. -/
structure UploadReceipt where
  certificates : List Members := []

namespace UploadEntry

/-- Reads a certificate to upload. -/
def check : Check UploadEntry := .record fun members =>
  UploadEntry.mk <$> (field "certificate").required .text members
    <*> (fieldOr "applicationIds" "application_ids").required (.list .text) members
    <*> (fieldOr "apiClientInformation" "api_client_information").required
      ClientInformation.check members

/-- The wire form of a certificate to upload. -/
def payload (entry : UploadEntry) : Value := Payload.record [
  ("certificate", some (.text entry.certificate)),
  ("applicationIds", some (Payload.texts entry.applicationIds)),
  ("apiClientInformation", some entry.clientInformation.payload)]

/-- A certificate to upload as data, each member under its name. -/
def data (entry : UploadEntry) : Value := .record [
  ("certificate", .text entry.certificate),
  ("application_ids", .texts entry.applicationIds),
  ("api_client_information", entry.clientInformation.data)]

end UploadEntry

namespace Upload

/-- Reads an upload. -/
def check : Check Upload := .record fun members =>
  Upload.mk <$> (field "certificates").required (.list UploadEntry.check) members

/-- The wire form of an upload. -/
def payload (upload : Upload) : Value := Payload.record [
  ("certificates", some (.list (upload.certificates.map UploadEntry.payload)))]

/-- An upload as data. -/
def data (upload : Upload) : Value := .record [
  ("certificates", .list (upload.certificates.map UploadEntry.data))]

end Upload

namespace UploadReceipt

/-- Reads the answer to an upload. -/
def check : Check UploadReceipt := .record fun members =>
  UploadReceipt.mk <$> (fieldOr "certificateInformations" "certificate_informations").withDefault []
    (.list (.mapping .anything)) members

/-- The wire form of the answer to an upload. -/
def payload (receipt : UploadReceipt) : Value := Payload.record [
  ("certificateInformations",
    some (.list (receipt.certificates.map fun found => (Value.record found).wire)))]

/-- The free-form data of the answer to an upload. -/
def freeForm (receipt : UploadReceipt) : List Value := receipt.certificates.flatMap Payload.values

/-- The wire form of the answer to an upload, as far as the platform writes it. -/
def encode (receipt : UploadReceipt) : Except Lapse Value :=
  Payload.within receipt.freeForm receipt.payload

/-- The answer to an upload as data. -/
def data (receipt : UploadReceipt) : Value := .record [
  ("certificate_informations", .list (receipt.certificates.map .record))]

end UploadReceipt

end Issuance
