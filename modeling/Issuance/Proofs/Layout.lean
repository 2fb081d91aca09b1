import Issuance.Proofs.Wire

/-! The layout of the records the service exchanges: their fields, and the wire names these go by. -/

namespace Issuance

/-- The kinds of record that go over the wire. -/
inductive Model where
  | serviceError
  | serviceErrors
  | user
  | company
  | account
  | application
  | issuingTemplate
  | usageMetadata
  | clientInformation
  | submission
  | requestRecord
  | submissionReceipt
  | requestStatus
  | managedCertificate
  | certificateSummary
  | searchResult
  | operand
  | expression
  | paging
  | search
  | uploadEntry
  | upload
  | uploadReceipt
  deriving DecidableEq, Repr

namespace Model

/-- What stands in a field: data as it is, a moment, a record, or a list of records. -/
inductive Shape where
  | plain
  | moment
  | one (model : Model)
  | many (model : Model)

/-- A field of a record, with its name on the wire. -/
structure Slot where
  name : String
  wireName : String
  shape : Shape := .plain

/-- The fields of a record, in order. -/
def slots : Model → List Slot
  | serviceError => [⟨"code", "code", .plain⟩, ⟨"message", "message", .plain⟩,
      ⟨"args", "args", .plain⟩]
  | serviceErrors => [⟨"errors", "errors", .many serviceError⟩]
  | user => [⟨"id", "id", .plain⟩, ⟨"username", "username", .plain⟩,
      ⟨"company_id", "companyId", .plain⟩]
  | company => [⟨"id", "id", .plain⟩, ⟨"name", "name", .plain⟩]
  | account => [⟨"user", "user", .one user⟩, ⟨"company", "company", .one company⟩]
  | application => [⟨"application_id", "id", .plain⟩, ⟨"name", "name", .plain⟩,
      ⟨"template_alias_map", "certificateIssuingTemplateAliasIdMap", .plain⟩]
  | issuingTemplate => [⟨"id", "id", .plain⟩, ⟨"company_id", "companyId", .plain⟩,
      ⟨"name", "name", .plain⟩, ⟨"certificate_authority", "certificateAuthority", .plain⟩,
      ⟨"key_types", "keyTypes", .plain⟩, ⟨"subject_cn_regexes", "subjectCNRegexes", .plain⟩,
      ⟨"san_regexes", "sanRegexes", .plain⟩, ⟨"validity_period", "validityPeriod", .plain⟩]
  | usageMetadata => [⟨"app_name", "appName", .plain⟩, ⟨"node_name", "nodeName", .plain⟩]
  | clientInformation => [⟨"type", "type", .plain⟩, ⟨"identifier", "identifier", .plain⟩]
  | submission => [⟨"csr", "certificateSigningRequest", .plain⟩,
      ⟨"application_id", "applicationId", .plain⟩,
      ⟨"template_id", "certificateIssuingTemplateId", .plain⟩,
      ⟨"existing_certificate_id", "existingCertificateId", .plain⟩,
      ⟨"api_client_information", "apiClientInformation", .one clientInformation⟩,
      ⟨"certificate_usage_metadata", "certificateUsageMetadata", .many usageMetadata⟩,
      ⟨"reuse_csr", "reuseCSR", .plain⟩, ⟨"validity_period", "validityPeriod", .plain⟩]
  | requestRecord => [⟨"id", "id", .plain⟩, ⟨"status", "status", .plain⟩]
  | submissionReceipt => [⟨"certificate_requests", "certificateRequests", .many requestRecord⟩]
  | requestStatus => [⟨"id", "id", .plain⟩, ⟨"status", "status", .plain⟩,
      ⟨"application_id", "applicationId", .plain⟩,
      ⟨"template_id", "certificateIssuingTemplateId", .plain⟩,
      ⟨"certificate_ids", "certificateIds", .plain⟩,
      ⟨"error_information", "errorInformation", .plain⟩]
  | managedCertificate => [⟨"id", "id", .plain⟩, ⟨"company_id", "companyId", .plain⟩,
      ⟨"certificate_request_id", "certificateRequestId", .plain⟩]
  | certificateSummary => [⟨"id", "id", .plain⟩,
      ⟨"certificate_request_id", "certificateRequestId", .plain⟩,
      ⟨"subject_cn", "subjectCN", .plain⟩, ⟨"fingerprint", "fingerprint", .plain⟩,
      ⟨"serial_number", "serialNumber", .plain⟩, ⟨"validity_start", "validityStart", .moment⟩,
      ⟨"validity_end", "validityEnd", .moment⟩,
      ⟨"subject_alternative_names_by_type", "subjectAlternativeNamesByType", .plain⟩]
  | searchResult => [⟨"count", "count", .plain⟩,
      ⟨"certificates", "certificates", .many certificateSummary⟩]
  | operand => [⟨"field", "field", .plain⟩, ⟨"operator", "operator", .plain⟩,
      ⟨"value", "value", .plain⟩]
  | expression => [⟨"operands", "operands", .many operand⟩, ⟨"operator", "operator", .plain⟩]
  | paging => [⟨"page_number", "pageNumber", .plain⟩, ⟨"page_size", "pageSize", .plain⟩]
  | search => [⟨"expression", "expression", .one expression⟩, ⟨"paging", "paging", .one paging⟩]
  | uploadEntry => [⟨"certificate", "certificate", .plain⟩,
      ⟨"application_ids", "applicationIds", .plain⟩,
      ⟨"api_client_information", "apiClientInformation", .one clientInformation⟩]
  | upload => [⟨"certificates", "certificates", .many uploadEntry⟩]
  | uploadReceipt => [⟨"certificate_informations", "certificateInformations", .plain⟩]

mutual

/-- How data in a field goes over the wire. -/
inductive Written : Shape → Value → Value → Prop
  | plain (value : Value) : Written .plain value value
  | moment (m : Moment) : Written .moment (.text m.text) (.text m.wireText)
  | one {model : Model} {members wired : Members} (fields : WrittenFields model.slots members wired) :
      Written (.one model) (.record members) (.record wired)
  | many {model : Model} {items wired : List Value} (each : WrittenItems model items wired) :
      Written (.many model) (.list items) (.list wired)

/-- How the records of a list go over the wire: one by one. -/
inductive WrittenItems : Model → List Value → List Value → Prop
  | nil {model : Model} : WrittenItems model [] []
  | cons {model : Model} {item wired : Value} {items rest : List Value}
      (first : Written (.one model) item wired) (others : WrittenItems model items rest) :
      WrittenItems model (item :: items) (wired :: rest)

/-- How the fields of a record go over the wire: a null is left out, all else has its wire name. -/
inductive WrittenFields : List Slot → Members → Members → Prop
  | nil : WrittenFields [] [] []
  | null {slot : Slot} {slots : List Slot} {members wired : Members}
      (others : WrittenFields slots members wired) :
      WrittenFields (slot :: slots) ((slot.name, .null) :: members) wired
  | field {slot : Slot} {slots : List Slot} {value sent : Value} {members wired : Members}
      (telling : value ≠ .null) (written : Written slot.shape value sent)
      (others : WrittenFields slots members wired) :
      WrittenFields (slot :: slots) ((slot.name, value) :: members) ((slot.wireName, sent) :: wired)

end

namespace WrittenFields

variable {name wireName : String} {shape : Shape} {slots : List Slot} {members : Members}
  {entries : List (String × Option Value)}

/-- A field that always holds something is present. -/
theorem always {value sent : Value} (telling : value ≠ .null) (written : Written shape value sent)
    (others : WrittenFields slots members (Payload.given entries)) :
    WrittenFields (⟨name, wireName, shape⟩ :: slots) ((name, value) :: members)
      (Payload.given ((wireName, some sent) :: entries)) :=
  .field telling written others

/-- A field that may hold something is present if it does. -/
theorem maybe {α : Type} {shown sent : α → Value} {found : Option α}
    (telling : ∀ x ∈ found, shown x ≠ .null)
    (written : ∀ x ∈ found, Written shape (shown x) (sent x))
    (others : WrittenFields slots members (Payload.given entries)) :
    WrittenFields (⟨name, wireName, shape⟩ :: slots) ((name, .orNull (found.map shown)) :: members)
      (Payload.given ((wireName, found.map sent) :: entries)) := by
  cases found with
  | none => exact .null others
  | some x => exact .field (telling x rfl) (written x rfl) others

end WrittenFields

/-- Records that each go over the wire in their layout do so in a list. -/
theorem WrittenItems.map {α : Type} {model : Model} {shown sent : α → Value} {items : List α}
    (written : ∀ item ∈ items, Written (.one model) (shown item) (sent item)) :
    WrittenItems model (items.map shown) (items.map sent) := by
  induction items with
  | nil => exact .nil
  | cons item rest ih =>
    obtain ⟨first, others⟩ := List.forall_mem_cons.mp written
    exact .cons first (ih others)

end Model

end Issuance
