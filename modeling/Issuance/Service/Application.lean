import Issuance.Schema.Check
import Issuance.Service.Payload

/-! Applications registered with the service, and the issuing templates they use. -/

namespace Issuance

/-- An application, with the ids of its issuing templates by alias. -/
structure Application where
  id : String
  name : String := ""
  templateIds : List (String × String) := []
  deriving DecidableEq, Repr

/-- An issuing template: the policy certificates of a zone are issued under. -/
structure IssuingTemplate where
  id : String
  companyId : Option String := none
  name : String := ""
  certificateAuthority : Option String := none
  keyTypes : List Members := []
  subjectCnPatterns : List String := []
  sanPatterns : List String := []
  validityPeriod : Option String := none

namespace Application

/-- Reads an application record. -/
def check : Check Application := .record fun members =>
  Application.mk <$> (fieldOr "id" "application_id").required .text members
    <*> (field "name").withDefault "" .text members
    <*> (fieldOr "certificateIssuingTemplateAliasIdMap" "template_alias_map").withDefault []
      (.mapping .text) members

/-- The wire form of an application record. -/
def payload (application : Application) : Value := Payload.record [
  ("id", some (.text application.id)),
  ("name", some (.text application.name)),
  ("certificateIssuingTemplateAliasIdMap",
    some (.record (application.templateIds.map fun (name, id) => (name, .text id))))]

/-- The id of the template with an alias. -/
def templateId? (application : Application) (templateAlias : String) : Option String :=
  application.templateIds.lookup templateAlias

/-- An application record as data, each member under its name. -/
def data (application : Application) : Value := .record [
  ("application_id", .text application.id),
  ("name", .text application.name),
  ("template_alias_map",
    .record (application.templateIds.map fun (name, id) => (name, .text id)))]

end Application

namespace IssuingTemplate

/-- Reads an issuing template. -/
def check : Check IssuingTemplate := .record fun members =>
  IssuingTemplate.mk <$> (field "id").required .text members
    <*> (fieldOr "companyId" "company_id").optional .text members
    <*> (field "name").withDefault "" .text members
    <*> (fieldOr "certificateAuthority" "certificate_authority").optional .text members
    <*> (fieldOr "keyTypes" "key_types").withDefault [] (.list (.mapping .anything)) members
    <*> (fieldOr "subjectCNRegexes" "subject_cn_regexes").withDefault [] (.list .text) members
    <*> (fieldOr "sanRegexes" "san_regexes").withDefault [] (.list .text) members
    <*> (fieldOr "validityPeriod" "validity_period").optional .text members

/-- The wire form of an issuing template. -/
def payload (template : IssuingTemplate) : Value := Payload.record [
  ("id", some (.text template.id)),
  ("companyId", template.companyId.map .text),
  ("name", some (.text template.name)),
  ("certificateAuthority", template.certificateAuthority.map .text),
  ("keyTypes", some (.list (template.keyTypes.map fun keyType => (Value.record keyType).wire))),
  ("subjectCNRegexes", some (Payload.texts template.subjectCnPatterns)),
  ("sanRegexes", some (Payload.texts template.sanPatterns)),
  ("validityPeriod", template.validityPeriod.map .text)]

/-- The free-form data of an issuing template. -/
def freeForm (template : IssuingTemplate) : List Value := template.keyTypes.flatMap Payload.values

/-- The wire form of an issuing template, as far as the platform writes it. -/
def encode (template : IssuingTemplate) : Except Lapse Value :=
  Payload.within template.freeForm template.payload

/-- An issuing template as data, each member under its name. -/
def data (template : IssuingTemplate) : Value := .record [
  ("id", .text template.id),
  ("company_id", .textOrNull template.companyId),
  ("name", .text template.name),
  ("certificate_authority", .textOrNull template.certificateAuthority),
  ("key_types", .list (template.keyTypes.map .record)),
  ("subject_cn_regexes", .texts template.subjectCnPatterns),
  ("san_regexes", .texts template.sanPatterns),
  ("validity_period", .textOrNull template.validityPeriod)]

end IssuingTemplate

end Issuance
