import Issuance.Schema.Check

/-! What callers ask for: a certificate, a renewal, an import, a listing. -/

namespace Issuance

/-- Where the signing request of a certificate request comes from. -/
inductive CsrOrigin where
  | localGenerated
  | serviceGenerated
  | userProvided
  deriving DecidableEq, Repr

/-- The order in which a caller wants a chain. -/
inductive ChainOption where
  | rootLast
  | rootFirst
  | ignore
  deriving DecidableEq, Repr

/-- What a custom field is for. -/
inductive CustomFieldKind where
  | plain
  /-- Its value names the kind of client. -/
  | origin
  deriving DecidableEq, Repr

/-- A caller's own note on a request. -/
structure CustomField where
  name : String := ""
  value : String
  kind : CustomFieldKind := .plain
  deriving DecidableEq, Repr

/-- Where a certificate will be installed. -/
structure Location where
  node : String := ""
  workload : String := ""
  deriving DecidableEq, Repr

/-- A request for a certificate. -/
structure CertificateRequest where
  csr : Option String := none
  csrOrigin : CsrOrigin := .localGenerated
  zone : Option String := none
  location : Option Location := none
  customFields : List CustomField := []
  validityHours : Int := 0
  chainOption : ChainOption := .rootLast
  /-- Seconds to wait for issuance; without it there is no waiting. -/
  timeout : Option Double := none
  /-- The id of the submitted request, recorded when it is known. -/
  pickupId : Option String := none
  certificateId : Option String := none
  thumbprint : Option String := none
  deriving DecidableEq

/-- The renewal of a certificate, named by the id of the request behind it or by its thumbprint. -/
structure RenewalRequest where
  certificateDn : Option String := none
  thumbprint : Option String := none
  request : Option CertificateRequest := none
  deriving DecidableEq

/-- The import of a certificate that was issued elsewhere. -/
structure ImportRequest where
  certificateData : String
  applicationId : Option String := none
  zone : Option String := none
  customFields : List CustomField := []
  deriving DecidableEq, Repr

/-- A certificate as it is known after its import. -/
structure ImportedCertificate where
  certificateDn : String
  certificateId : String
  deriving DecidableEq, Repr

/-- Which certificates to list; without a limit, all of them. -/
structure CertificateFilter where
  limit : Option Int := none
  withExpired : Bool := false
  deriving DecidableEq, Repr

/-- A certificate in a listing. -/
structure CertificateInfo where
  id : String
  cn : String := ""
  dnsNames : List String := []
  serial : String := ""
  thumbprint : String := ""
  validFrom : Option Moment := none
  validTo : Option Moment := none
  deriving DecidableEq, Repr

/-- A leaf certificate and its chain, in the order they were received. -/
structure PemCollection where
  certificate : String
  chain : List String := []
  deriving DecidableEq, Repr

namespace CsrOrigin

/-- The word for an origin. -/
def word : CsrOrigin → String
  | localGenerated => "local"
  | serviceGenerated => "service"
  | userProvided => "provided"

/-- The words with their meanings. -/
def words : List (String × CsrOrigin) :=
  [localGenerated, serviceGenerated, userProvided].map fun origin => (origin.word, origin)

end CsrOrigin

namespace ChainOption

/-- The word for an option. -/
def word : ChainOption → String
  | rootLast => "root-last"
  | rootFirst => "root-first"
  | ignore => "ignore"

/-- The words with their meanings. -/
def words : List (String × ChainOption) :=
  [rootLast, rootFirst, ignore].map fun option => (option.word, option)

end ChainOption

namespace CustomFieldKind

/-- The word for a kind. -/
def word : CustomFieldKind → String
  | plain => "plain"
  | origin => "origin"

/-- The words with their meanings. -/
def words : List (String × CustomFieldKind) := [plain, origin].map fun kind => (kind.word, kind)

end CustomFieldKind

namespace CustomField

/-- Reads a custom field. -/
def check : Check CustomField := .record fun members =>
  CustomField.mk <$> (field "name").withDefault "" .text members
    <*> (field "value").required .text members
    <*> (field "type").withDefault .plain (.choice CustomFieldKind.words) members

/-- The value of the last field that names the kind of client, or a default. -/
def origin (default : String) (fields : List CustomField) : String :=
  fields.foldl (fun found field => if field.kind = .origin then field.value else found) default

/-- A custom field as data, each member under its name. -/
def data (field : CustomField) : Value := .record [
  ("name", .text field.name),
  ("value", .text field.value),
  ("type", .text field.kind.word)]

end CustomField

namespace Location

/-- Reads a location. -/
def check : Check Location := .record fun members =>
  Location.mk <$> (field "instance").withDefault "" .text members
    <*> (field "workload").withDefault "" .text members

/-- A location as data. -/
def data (location : Location) : Value := .record [
  ("instance", .text location.node),
  ("workload", .text location.workload)]

end Location

namespace CertificateRequest

/-- Reads a certificate request. -/
def check : Check CertificateRequest := .record fun members =>
  CertificateRequest.mk <$> (field "csr").optional .text members
    <*> (field "csr_origin").withDefault .localGenerated (.choice CsrOrigin.words) members
    <*> (field "zone").optional .text members
    <*> (field "location").optional Location.check members
    <*> (field "custom_fields").withDefault [] (.list CustomField.check) members
    <*> (field "validity_hours").withDefault 0 .integer members
    <*> (field "chain_option").withDefault .rootLast (.choice ChainOption.words) members
    <*> (field "timeout").withDefault none (fun value => (Check.number value).map some) members
    <*> (field "pickup_id").optional .text members
    <*> (field "certificate_id").optional .text members
    <*> (field "thumbprint").optional .text members

/-- How long to wait for issuance. -/
def patience (request : CertificateRequest) : Double := request.timeout.getD .zero

/-- A certificate request as data; a timeout that was not given is a whole zero. -/
def data (request : CertificateRequest) : Value := .record [
  ("csr", .textOrNull request.csr),
  ("csr_origin", .text request.csrOrigin.word),
  ("zone", .textOrNull request.zone),
  ("location", .orNull (request.location.map Location.data)),
  ("custom_fields", .list (request.customFields.map CustomField.data)),
  ("validity_hours", .int request.validityHours),
  ("chain_option", .text request.chainOption.word),
  ("timeout", (request.timeout.map .float).getD (.int 0)),
  ("pickup_id", .textOrNull request.pickupId),
  ("certificate_id", .textOrNull request.certificateId),
  ("thumbprint", .textOrNull request.thumbprint)]

end CertificateRequest

namespace RenewalRequest

/-- Reads a renewal. -/
def check : Check RenewalRequest := .record fun members =>
  RenewalRequest.mk <$> (field "certificate_dn").optional .text members
    <*> (field "thumbprint").optional .text members
    <*> (field "certificate_request").optional CertificateRequest.check members

/-- A renewal as data. -/
def data (renewal : RenewalRequest) : Value := .record [
  ("certificate_dn", .textOrNull renewal.certificateDn),
  ("thumbprint", .textOrNull renewal.thumbprint),
  ("certificate_request", .orNull (renewal.request.map CertificateRequest.data))]

end RenewalRequest

namespace ImportRequest

/-- Reads an import. -/
def check : Check ImportRequest := .record fun members =>
  ImportRequest.mk <$> (field "certificate_data").required .text members
    <*> (field "application_id").optional .text members
    <*> (field "zone").optional .text members
    <*> (field "custom_fields").withDefault [] (.list CustomField.check) members

/-- An import as data. -/
def data (request : ImportRequest) : Value := .record [
  ("certificate_data", .text request.certificateData),
  ("application_id", .textOrNull request.applicationId),
  ("zone", .textOrNull request.zone),
  ("custom_fields", .list (request.customFields.map CustomField.data))]

end ImportRequest

namespace ImportedCertificate

/-- Reads the result of an import. -/
def check : Check ImportedCertificate := .record fun members =>
  ImportedCertificate.mk <$> (field "certificate_dn").required .text members
    <*> (field "certificate_id").required .text members

/-- The result of an import as data. -/
def data (imported : ImportedCertificate) : Value := .record [
  ("certificate_dn", .text imported.certificateDn),
  ("certificate_id", .text imported.certificateId)]

end ImportedCertificate

namespace CertificateFilter

/-- Reads a filter; a limit is not negative. -/
def check : Check CertificateFilter := .record fun members =>
  CertificateFilter.mk <$> (field "limit").optional (.integerFrom 0) members
    <*> (field "with_expired").withDefault false .boolean members

/-- A filter as data. -/
def data (filter : CertificateFilter) : Value := .record [
  ("limit", .orNull (filter.limit.map .int)),
  ("with_expired", .bool filter.withExpired)]

end CertificateFilter

namespace CertificateInfo

/-- Reads a certificate of a listing. -/
def check : Check CertificateInfo := .record fun members =>
  CertificateInfo.mk <$> (field "id").required .text members
    <*> (field "cn").withDefault "" .text members
    <*> (field "dns_names").withDefault [] (.list .text) members
    <*> (field "serial").withDefault "" .text members
    <*> (field "thumbprint").withDefault "" .text members
    <*> (field "valid_from").optional .moment members
    <*> (field "valid_to").optional .moment members

/-- A certificate of a listing as data. -/
def data (info : CertificateInfo) : Value := .record [
  ("id", .text info.id),
  ("cn", .text info.cn),
  ("dns_names", .texts info.dnsNames),
  ("serial", .text info.serial),
  ("thumbprint", .text info.thumbprint),
  ("valid_from", .textOrNull (info.validFrom.map Moment.text)),
  ("valid_to", .textOrNull (info.validTo.map Moment.text))]

end CertificateInfo

namespace PemCollection

/-- Reads a collection. -/
def check : Check PemCollection := .record fun members =>
  PemCollection.mk <$> (field "certificate").required .text members
    <*> (field "chain").withDefault [] (.list .text) members

/-- All blocks, the leaf first. -/
def blocks (collection : PemCollection) : List String := collection.certificate :: collection.chain

/-- A collection as data. -/
def data (collection : PemCollection) : Value := .record [
  ("certificate", .text collection.certificate),
  ("chain", .texts collection.chain)]

end PemCollection

end Issuance
