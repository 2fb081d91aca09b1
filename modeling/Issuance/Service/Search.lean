import Issuance.Schema.Check
import Issuance.Service.Payload

/-! Structured searches over certificates, the records they find, and the record of one certificate. -/

namespace Issuance

/-- How an operand compares a field with its value. -/
inductive Comparison where
  | matching
  | eq
  | find
  | gt
  | gte
  | lt
  | lte
  | isIn
  deriving DecidableEq, Repr

/-- How the operands of an expression combine. -/
inductive Connective where
  | and
  | or
  deriving DecidableEq, Repr

/-- One condition of a search. -/
structure Operand where
  field : String
  comparison : Comparison
  value : Value

/-- The conditions of a search, combined. -/
structure Expression where
  operands : List Operand
  connective : Option Connective := none

/-- Which part of the findings to answer with. -/
structure Paging where
  pageNumber : Int
  pageSize : Int
  deriving DecidableEq, Repr

/-- A search over certificates. -/
structure Search where
  expression : Expression
  paging : Option Paging := none

/-- A certificate a search has found. -/
structure CertificateSummary where
  id : String := ""
  requestId : String := ""
  subjectCns : List String := []
  fingerprint : String := ""
  serialNumber : String := ""
  validityStart : Option Moment := none
  validityEnd : Option Moment := none
  alternativeNames : List (String × Option (List String)) := []
  deriving DecidableEq, Repr

/-- The answer to a search. -/
structure SearchResult where
  count : Int := 0
  certificates : List CertificateSummary := []
  deriving DecidableEq, Repr

/-- The record of a certificate, with the request that last produced it. -/
structure ManagedCertificate where
  id : String
  companyId : Option String := none
  requestId : String := ""
  deriving DecidableEq, Repr

namespace Comparison

/-- The word on the wire. -/
def word : Comparison → String
  | matching => "MATCH"
  | eq => "EQ"
  | find => "FIND"
  | gt => "GT"
  | gte => "GTE"
  | lt => "LT"
  | lte => "LTE"
  | isIn => "IN"

/-- The words on the wire with their meanings. -/
def words : List (String × Comparison) :=
  [matching, eq, find, gt, gte, lt, lte, isIn].map fun comparison => (comparison.word, comparison)

end Comparison

namespace Connective

/-- The word on the wire. -/
def word : Connective → String
  | and => "AND"
  | or => "OR"

/-- The words on the wire with their meanings. -/
def words : List (String × Connective) := [and, or].map fun connective => (connective.word, connective)

end Connective

namespace Operand

/-- Reads an operand. -/
def check : Check Operand := .record fun members =>
  Operand.mk <$> (Issuance.field "field").required .text members
    <*> (Issuance.field "operator").required (.choice Comparison.words) members
    <*> (Issuance.field "value").required .anything members

/-- The wire form of an operand. -/
def payload (operand : Operand) : Value := Payload.record [
  ("field", some (.text operand.field)),
  ("operator", some (.text operand.comparison.word)),
  ("value", Payload.present operand.value)]

/-- The free-form data of an operand. -/
def freeForm (operand : Operand) : List Value := [operand.value]

/-- The wire form of an operand, as far as the platform writes it. -/
def encode (operand : Operand) : Except Lapse Value :=
  Payload.within operand.freeForm operand.payload

/-- An operand as data, each member under its name. -/
def data (operand : Operand) : Value := .record [
  ("field", .text operand.field),
  ("operator", .text operand.comparison.word),
  ("value", operand.value)]

end Operand

namespace Expression

/-- Reads an expression. -/
def check : Check Expression := .record fun members =>
  Expression.mk <$> (field "operands").required (.list Operand.check) members
    <*> (field "operator").optional (.choice Connective.words) members

/-- The wire form of an expression. -/
def payload (expression : Expression) : Value := Payload.record [
  ("operands", some (.list (expression.operands.map Operand.payload))),
  ("operator", expression.connective.map fun connective => .text connective.word)]

/-- The free-form data of an expression. -/
def freeForm (expression : Expression) : List Value := expression.operands.flatMap Operand.freeForm

/-- The wire form of an expression, as far as the platform writes it. -/
def encode (expression : Expression) : Except Lapse Value :=
  Payload.within expression.freeForm expression.payload

/-- An expression as data. -/
def data (expression : Expression) : Value := .record [
  ("operands", .list (expression.operands.map Operand.data)),
  ("operator", .orNull (expression.connective.map fun connective => .text connective.word))]

end Expression

namespace Paging

/-- Reads paging. -/
def check : Check Paging := .record fun members =>
  Paging.mk <$> (fieldOr "pageNumber" "page_number").required .integer members
    <*> (fieldOr "pageSize" "page_size").required .integer members

/-- The wire form of paging. -/
def payload (paging : Paging) : Value := Payload.record [
  ("pageNumber", some (.int paging.pageNumber)),
  ("pageSize", some (.int paging.pageSize))]

/-- Paging as data. -/
def data (paging : Paging) : Value := .record [
  ("page_number", .int paging.pageNumber),
  ("page_size", .int paging.pageSize)]

end Paging

namespace Search

/-- Reads a search. -/
def check : Check Search := .record fun members =>
  Search.mk <$> (field "expression").required Expression.check members
    <*> (field "paging").optional Paging.check members

/-- The wire form of a search. -/
def payload (search : Search) : Value := Payload.record [
  ("expression", some search.expression.payload),
  ("paging", search.paging.map Paging.payload)]

/-- The free-form data of a search. -/
def freeForm (search : Search) : List Value := search.expression.freeForm

/-- The wire form of a search, as far as the platform writes it. -/
def encode (search : Search) : Except Lapse Value :=
  Payload.within search.freeForm search.payload

/-- A search as data. -/
def data (search : Search) : Value := .record [
  ("expression", search.expression.data),
  ("paging", .orNull (search.paging.map Paging.data))]

end Search

namespace CertificateSummary

/-- Reads a certificate summary. -/
def check : Check CertificateSummary := .record fun members =>
  CertificateSummary.mk <$> (field "id").withDefault "" .text members
    <*> (fieldOr "certificateRequestId" "certificate_request_id").withDefault "" .text members
    <*> (fieldOr "subjectCN" "subject_cn").withDefault [] (.list .text) members
    <*> (field "fingerprint").withDefault "" .text members
    <*> (fieldOr "serialNumber" "serial_number").withDefault "" .text members
    <*> (fieldOr "validityStart" "validity_start").optional .moment members
    <*> (fieldOr "validityEnd" "validity_end").optional .moment members
    <*> (fieldOr "subjectAlternativeNamesByType" "subject_alternative_names_by_type").withDefault []
      (.mapping (.optional (.list .text))) members

/-- The names of one kind, where null stands for none told. -/
def namesPayload : Option (List String) → Value
  | none => .null
  | some names => Payload.texts names

/-- The wire form of a certificate summary. -/
def payload (summary : CertificateSummary) : Value := Payload.record [
  ("id", some (.text summary.id)),
  ("certificateRequestId", some (.text summary.requestId)),
  ("subjectCN", some (Payload.texts summary.subjectCns)),
  ("fingerprint", some (.text summary.fingerprint)),
  ("serialNumber", some (.text summary.serialNumber)),
  ("validityStart", summary.validityStart.map fun moment => .text moment.wireText),
  ("validityEnd", summary.validityEnd.map fun moment => .text moment.wireText),
  ("subjectAlternativeNamesByType",
    some (.record (summary.alternativeNames.map fun (kind, names) => (kind, namesPayload names))))]

/-- The first common name; empty if there is none. -/
def subjectCn (summary : CertificateSummary) : String := summary.subjectCns.headD ""

/-- The DNS names, if they are told. -/
def dnsNames (summary : CertificateSummary) : List String :=
  ((summary.alternativeNames.lookup "dNSName").getD none).getD []

/-- A certificate summary as data. -/
def data (summary : CertificateSummary) : Value := .record [
  ("id", .text summary.id),
  ("certificate_request_id", .text summary.requestId),
  ("subject_cn", .texts summary.subjectCns),
  ("fingerprint", .text summary.fingerprint),
  ("serial_number", .text summary.serialNumber),
  ("validity_start", .textOrNull (summary.validityStart.map Moment.text)),
  ("validity_end", .textOrNull (summary.validityEnd.map Moment.text)),
  ("subject_alternative_names_by_type",
    .record (summary.alternativeNames.map fun (kind, names) => (kind, namesPayload names)))]

end CertificateSummary

namespace SearchResult

/-- Reads the answer to a search. -/
def check : Check SearchResult := .record fun members =>
  SearchResult.mk <$> (field "count").withDefault 0 .integer members
    <*> (field "certificates").withDefault [] (.list CertificateSummary.check) members

/-- The wire form of the answer to a search. -/
def payload (result : SearchResult) : Value := Payload.record [
  ("count", some (.int result.count)),
  ("certificates", some (.list (result.certificates.map CertificateSummary.payload)))]

/-- The answer to a search as data. -/
def data (result : SearchResult) : Value := .record [
  ("count", .int result.count),
  ("certificates", .list (result.certificates.map CertificateSummary.data))]

end SearchResult

namespace ManagedCertificate

/-- Reads the record of a certificate. -/
def check : Check ManagedCertificate := .record fun members =>
  ManagedCertificate.mk <$> (field "id").required .text members
    <*> (fieldOr "companyId" "company_id").optional .text members
    <*> (fieldOr "certificateRequestId" "certificate_request_id").withDefault "" .text members

/-- The wire form of the record of a certificate. -/
def payload (certificate : ManagedCertificate) : Value := Payload.record [
  ("id", some (.text certificate.id)),
  ("companyId", certificate.companyId.map .text),
  ("certificateRequestId", some (.text certificate.requestId))]

/-- The record of a certificate as data. -/
def data (certificate : ManagedCertificate) : Value := .record [
  ("id", .text certificate.id),
  ("company_id", .textOrNull certificate.companyId),
  ("certificate_request_id", .text certificate.requestId)]

end ManagedCertificate

end Issuance
