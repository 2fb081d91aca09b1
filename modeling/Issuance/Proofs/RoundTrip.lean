import Issuance.Proofs.Layout
import Issuance.Service.Account
import Issuance.Service.Application
import Issuance.Service.Response
import Issuance.Service.Search
import Issuance.Service.Status
import Issuance.Service.Upload

/-! Records of the service are written in their layout, and read back as they were. -/

namespace Issuance

open Model (Written WrittenFields WrittenItems)

/-- The members of a record that is written are checked by the check of the record. -/
theorem Check.record_record {α : Type} (check : Members → Validated α)
    (entries : List (String × Option Value)) :
    Check.record check (Payload.record entries) = check (Payload.given entries) := rfl

-- Reading starts from the members that are present, each looked up under its wire name.
attribute [local simp] Check.record_record Field.required Field.withDefault Field.optional
  Field.orElse_eq_settle field fieldOr Field.settle_map Check.list_map Payload.texts

/-- A text that may be missing is shown and sent alike. -/
theorem Model.WrittenFields.text {name wireName : String} {slots : List Slot} {members : Members}
    {entries : List (String × Option Value)} {found : Option String}
    (others : WrittenFields slots members (Payload.given entries)) :
    WrittenFields (⟨name, wireName, .plain⟩ :: slots) ((name, .textOrNull found) :: members)
      (Payload.given ((wireName, found.map .text) :: entries)) :=
  .maybe nofun (fun _ _ => .plain _) others

namespace ServiceError

/-- The arguments of an error can be said in JSON. -/
def Sayable (error : ServiceError) : Prop := ∀ args ∈ error.args, Value.SayableItems args

variable {error : ServiceError}

theorem args_wire (sayable : error.Sayable) :
    (error.args.map fun found => (Value.list found).wire) = error.args.map .list :=
  Option.map_congr fun args there => congrArg Value.list (Value.wireItems_eq (sayable args there))

theorem check_payload (sayable : error.Sayable) : check error.payload = .valid error := by
  -- Nothing is asked of an argument, so that a null among them is read back as well.
  have args : ∀ found ∈ error.args, Check.list .anything (.list found) = .valid found :=
    fun found _ => Check.list_self fun _ _ => rfl
  simp [check, payload, args_wire sayable, Field.settle_map _ args]

theorem written (sayable : error.Sayable) :
    Written (.one .serviceError) error.data error.payload := by
  simp only [payload, args_wire sayable]
  exact .one <| .always nofun (.plain _) <| .always nofun (.plain _) <|
    .maybe nofun (fun _ _ => .plain _) .nil

end ServiceError

namespace ServiceErrors

variable {found : ServiceErrors}

theorem check_payload (sayable : ∀ error ∈ found.errors, error.Sayable) :
    check found.payload = .valid found := by
  have errors : ∀ error ∈ found.errors, ServiceError.check error.payload = .valid error :=
    fun error member => ServiceError.check_payload (sayable error member)
  simp [check, payload, Check.list_map errors]

theorem written (sayable : ∀ error ∈ found.errors, error.Sayable) :
    Written (.one .serviceErrors) found.data found.payload :=
  .one <| .always nofun
    (.many (.map fun error member => ServiceError.written (sayable error member))) .nil

end ServiceErrors

namespace User

theorem check_payload (user : User) : check user.payload = .valid user := by
  simp [check, payload]

theorem payload_ne_null (user : User) : user.payload ≠ .null := nofun

theorem written (user : User) : Written (.one .user) user.data user.payload :=
  .one <| .always nofun (.plain _) <| .always nofun (.plain _) <| .text .nil

end User

namespace Company

theorem check_payload (company : Company) : check company.payload = .valid company := by
  simp [check, payload]

theorem payload_ne_null (company : Company) : company.payload ≠ .null := nofun

theorem written (company : Company) : Written (.one .company) company.data company.payload :=
  .one <| .always nofun (.plain _) <| .always nofun (.plain _) .nil

end Company

namespace Account

theorem check_payload (account : Account) : check account.payload = .valid account := by
  simp [check, payload, User.check_payload, User.payload_ne_null, Company.check_payload,
    Company.payload_ne_null]

theorem written (account : Account) : Written (.one .account) account.data account.payload :=
  .one <| .maybe nofun (fun user _ => user.written) <|
    .maybe nofun (fun company _ => company.written) .nil

end Account

namespace Application

theorem check_payload (application : Application) :
    check application.payload = .valid application := by
  have templates := @Check.mapping_map _ .text .text application.templateIds
    fun entry _ => Check.text_text entry.2
  simp [check, payload, templates]

theorem written (application : Application) :
    Written (.one .application) application.data application.payload :=
  .one <| .always nofun (.plain _) <| .always nofun (.plain _) <| .always nofun (.plain _) .nil

end Application

namespace IssuingTemplate

/-- The key types of a template can be said in JSON. -/
def Sayable (template : IssuingTemplate) : Prop :=
  ∀ keyType ∈ template.keyTypes, Value.SayableMembers keyType

variable {template : IssuingTemplate}

theorem keyTypes_wire (sayable : template.Sayable) :
    (template.keyTypes.map fun keyType => (Value.record keyType).wire) =
      template.keyTypes.map .record :=
  List.map_congr_left fun keyType member =>
    congrArg Value.record (Value.wireMembers_eq (sayable keyType member))

theorem check_payload (sayable : template.Sayable) : check template.payload = .valid template := by
  simp [check, payload, keyTypes_wire sayable, Check.mapping_anything]

theorem written (sayable : template.Sayable) :
    Written (.one .issuingTemplate) template.data template.payload := by
  simp only [payload, keyTypes_wire sayable]
  exact .one <| .always nofun (.plain _) <| .text <| .always nofun (.plain _) <| .text <|
    .always nofun (.plain _) <| .always nofun (.plain _) <| .always nofun (.plain _) <| .text .nil

end IssuingTemplate

namespace UsageMetadata

theorem check_payload (metadata : UsageMetadata) : check metadata.payload = .valid metadata := by
  simp [check, payload]

theorem written (metadata : UsageMetadata) :
    Written (.one .usageMetadata) metadata.data metadata.payload :=
  .one <| .always nofun (.plain _) <| .text .nil

end UsageMetadata

namespace ClientInformation

theorem check_payload (information : ClientInformation) :
    check information.payload = .valid information := by
  simp [check, payload]

theorem payload_ne_null (information : ClientInformation) : information.payload ≠ .null := nofun

theorem written (information : ClientInformation) :
    Written (.one .clientInformation) information.data information.payload :=
  .one <| .always nofun (.plain _) <| .always nofun (.plain _) .nil

end ClientInformation

namespace Submission

theorem check_payload (submission : Submission) : check submission.payload = .valid submission := by
  simp [check, payload, ClientInformation.check_payload, ClientInformation.payload_ne_null,
    UsageMetadata.check_payload]

theorem written (submission : Submission) :
    Written (.one .submission) submission.data submission.payload :=
  .one <| .text <| .always nofun (.plain _) <| .text <| .text <|
    .maybe nofun (fun information _ => information.written) <|
    .maybe nofun (fun _ _ => .many (.map fun metadata _ => metadata.written)) <|
    .maybe nofun (fun _ _ => .plain _) <| .text .nil

end Submission

namespace RequestRecord

theorem check_payload (record : RequestRecord) : check record.payload = .valid record := by
  simp [check, payload]

theorem written (record : RequestRecord) :
    Written (.one .requestRecord) record.data record.payload :=
  .one <| .always nofun (.plain _) <| .text .nil

end RequestRecord

namespace SubmissionReceipt

variable {receipt : SubmissionReceipt}

theorem check_payload (filled : receipt.records ≠ []) : check receipt.payload = .valid receipt := by
  -- A receipt without records would be written, but it would not be read.
  have records := Check.nonemptyList_map filled fun record _ => record.check_payload
  simp [check, payload, records]

theorem written : Written (.one .submissionReceipt) receipt.data receipt.payload :=
  .one <| .always nofun (.many (.map fun record _ => record.written)) .nil

end SubmissionReceipt

namespace RequestStatus

/-- The error information can be said in JSON. -/
def Sayable (status : RequestStatus) : Prop :=
  ∀ found ∈ status.errorInformation, Value.SayableMembers found

variable {status : RequestStatus}

theorem errorInformation_wire (sayable : status.Sayable) :
    (status.errorInformation.map fun found => (Value.record found).wire) =
      status.errorInformation.map .record :=
  Option.map_congr fun found there =>
    congrArg Value.record (Value.wireMembers_eq (sayable found there))

theorem errorValue_eq : status.errorValue = .orNull (status.errorInformation.map .record) := by
  unfold errorValue
  cases status.errorInformation <;> rfl

theorem check_state (state : IssuanceState) :
    Check.choice IssuanceState.words (.text state.word) = .valid state :=
  Check.choice_of_lookup (by cases state <;> decide)

theorem check_payload (sayable : status.Sayable) : check status.payload = .valid status := by
  simp [check, payload, errorInformation_wire sayable, check_state, Check.mapping_anything]

theorem written (sayable : status.Sayable) :
    Written (.one .requestStatus) status.data status.payload := by
  simp only [data, payload, errorInformation_wire sayable, errorValue_eq]
  exact .one <| .always nofun (.plain _) <| .always nofun (.plain _) <| .always nofun (.plain _) <|
    .always nofun (.plain _) <| .always nofun (.plain _) <|
    .maybe nofun (fun _ _ => .plain _) .nil

end RequestStatus

namespace ManagedCertificate

theorem check_payload (certificate : ManagedCertificate) :
    check certificate.payload = .valid certificate := by
  simp [check, payload]

theorem written (certificate : ManagedCertificate) :
    Written (.one .managedCertificate) certificate.data certificate.payload :=
  .one <| .always nofun (.plain _) <| .text <| .always nofun (.plain _) .nil

end ManagedCertificate

namespace CertificateSummary

/-- The moments a summary tells: the start and the end of the validity. -/
def moments (summary : CertificateSummary) : List Moment :=
  summary.validityStart.toList ++ summary.validityEnd.toList

/-- The validity of a certificate starts and ends at moments of the calendar. -/
def Dated (summary : CertificateSummary) : Prop := ∀ m ∈ summary.moments, m.Valid

variable {summary : CertificateSummary}

theorem check_namesPayload (names : Option (List String)) :
    Check.optional (.list .text) (namesPayload names) = .valid names := by
  cases names with
  | none => rfl
  | some names =>
    exact Check.optional_of_valid nofun (Check.list_map fun name _ => Check.text_text name)

/-- A summary comes back exactly if its moments have offsets of whole minutes. -/
theorem check_payload (dated : summary.Dated) :
    check summary.payload = .valid summary ↔ ∀ m ∈ summary.moments, m.ToMinute := by
  -- A moment that is missing is not written, and one that is not written is missing.
  have back (name : String) (found : Option Moment) :=
    @Field.settle_map_eq_valid Moment .moment name (fun m => .text m.wireText) found
      fun _ _ => nofun
  have names := @Check.mapping_map _ (.optional (.list .text)) namesPayload
    summary.alternativeNames fun entry _ => check_namesPayload entry.2
  let settled (name : String) (found : Option Moment) : Validated (Option Moment) :=
    Field.settle name (.optional .moment) (.valid none) (found.map fun m => .text m.wireText)
  -- All members but the two moments come back in any case.
  have shape : check summary.payload = .valid (CertificateSummary.mk summary.id summary.requestId
      summary.subjectCns summary.fingerprint summary.serialNumber) <*>
        settled "validityStart" summary.validityStart <*>
          settled "validityEnd" summary.validityEnd <*> .valid summary.alternativeNames := by
    simp [check, payload, names, settled]
  have each : check summary.payload = .valid summary ↔
      ∀ m ∈ summary.moments, Check.moment (.text m.wireText) = .valid m := by
    simp only [moments, List.mem_append, Option.mem_toList, shape]
    constructor
    · -- If the whole comes back, then each member that was read is the one that was written.
      intro passed
      obtain ⟨_, _, dated, _, same⟩ := Validated.seq_eq_valid.mp passed
      obtain ⟨_, finish, begun, finished, rfl⟩ := Validated.seq_eq_valid.mp dated
      obtain ⟨_, start, named, started, rfl⟩ := Validated.seq_eq_valid.mp begun
      cases named
      obtain rfl : start = summary.validityStart := congrArg validityStart same
      obtain rfl : finish = summary.validityEnd := congrArg validityEnd same
      rintro m (told | told)
      · exact (back _ _).mp started m told
      · exact (back _ _).mp finished m told
    · intro each
      have start := (back "validityStart" summary.validityStart).mpr fun m told => each m (.inl told)
      have finish := (back "validityEnd" summary.validityEnd).mpr fun m told => each m (.inr told)
      simp only [settled, start, finish, Validated.seq_valid]
  exact each.trans (forall₂_congr fun m told => Moment.check_wireText (dated m told))

theorem written : Written (.one .certificateSummary) summary.data summary.payload := by
  -- A moment is shown in another form than it is sent in, the only thing in a record that is.
  simp only [data, Value.textOrNull, Option.map_map]
  exact .one <| .always nofun (.plain _) <| .always nofun (.plain _) <| .always nofun (.plain _) <|
    .always nofun (.plain _) <| .always nofun (.plain _) <|
    .maybe nofun (fun m _ => .moment m) <| .maybe nofun (fun m _ => .moment m) <|
    .always nofun (.plain _) .nil

end CertificateSummary

namespace SearchResult

variable {result : SearchResult}

/-- The moments of all certificates found. -/
def moments (result : SearchResult) : List Moment :=
  result.certificates.flatMap CertificateSummary.moments

/-- The answer to a search comes back exactly if the moments in it have offsets of whole minutes. -/
theorem check_payload (dated : ∀ summary ∈ result.certificates, summary.Dated) :
    check result.payload = .valid result ↔ ∀ m ∈ result.moments, m.ToMinute := by
  have each := @Check.list_map_eq_valid _ CertificateSummary.check CertificateSummary.payload
    result.certificates
  have whole : (∀ summary ∈ result.certificates,
      CertificateSummary.check summary.payload = .valid summary) ↔
        ∀ m ∈ result.moments, m.ToMinute := by
    rw [moments, List.forall_mem_flatMap]
    exact forall₂_congr fun summary member => CertificateSummary.check_payload (dated summary member)
  have shape : check result.payload = .valid (SearchResult.mk result.count) <*>
      (Check.list CertificateSummary.check (.list
        (result.certificates.map CertificateSummary.payload))).inside (.key "certificates") := by
    simp [check, payload]
  rw [← whole, ← each, shape, Validated.seq_eq_valid]
  -- The count comes back in any case, so that it is up to the list.
  constructor
  · rintro ⟨_, found, ⟨⟩, passed, same⟩
    obtain rfl : found = result.certificates := congrArg certificates same
    exact Validated.inside_eq_valid.mp passed
  · intro passed
    exact ⟨_, _, rfl, Validated.inside_eq_valid.mpr passed, rfl⟩

theorem written : Written (.one .searchResult) result.data result.payload :=
  .one <| .always nofun (.plain _) <|
    .always nofun (.many (.map fun _ _ => CertificateSummary.written)) .nil

end SearchResult

namespace Operand

/-- There is a value to compare with, and it can be said in JSON. -/
def Sayable (operand : Operand) : Prop := operand.value ≠ .null ∧ operand.value.Sayable

variable {operand : Operand}

theorem check_comparison (comparison : Comparison) :
    Check.choice Comparison.words (.text comparison.word) = .valid comparison :=
  Check.choice_of_lookup (by cases comparison <;> decide)

theorem check_payload (sayable : operand.Sayable) : check operand.payload = .valid operand := by
  simp [check, payload, Payload.present_eq sayable.1 sayable.2, check_comparison]

theorem written (sayable : operand.Sayable) :
    Written (.one .operand) operand.data operand.payload := by
  simp only [payload, Payload.present_eq sayable.1 sayable.2]
  exact .one <| .always nofun (.plain _) <| .always nofun (.plain _) <|
    .always sayable.1 (.plain _) .nil

end Operand

namespace Expression

/-- All operands can be said in JSON. -/
def Sayable (expression : Expression) : Prop := ∀ operand ∈ expression.operands, operand.Sayable

variable {expression : Expression}

theorem check_connective (connective : Connective) :
    Check.choice Connective.words (.text connective.word) = .valid connective :=
  Check.choice_of_lookup (by cases connective <;> decide)

theorem check_payload (sayable : expression.Sayable) :
    check expression.payload = .valid expression := by
  have operands : ∀ operand ∈ expression.operands, Operand.check operand.payload = .valid operand :=
    fun operand member => Operand.check_payload (sayable operand member)
  simp [check, payload, Check.list_map operands, check_connective]

theorem written (sayable : expression.Sayable) :
    Written (.one .expression) expression.data expression.payload :=
  .one <| .always nofun
    (.many (.map fun operand member => Operand.written (sayable operand member))) <|
    .maybe nofun (fun _ _ => .plain _) .nil

end Expression

namespace Paging

theorem check_payload (paging : Paging) : check paging.payload = .valid paging := by
  simp [check, payload]

theorem payload_ne_null (paging : Paging) : paging.payload ≠ .null := nofun

theorem written (paging : Paging) : Written (.one .paging) paging.data paging.payload :=
  .one <| .always nofun (.plain _) <| .always nofun (.plain _) .nil

end Paging

namespace Search

variable {search : Search}

theorem check_payload (sayable : search.expression.Sayable) :
    check search.payload = .valid search := by
  simp [check, payload, Expression.check_payload sayable, Paging.check_payload,
    Paging.payload_ne_null]

theorem written (sayable : search.expression.Sayable) :
    Written (.one .search) search.data search.payload :=
  .one <| .always nofun (Expression.written sayable) <|
    .maybe nofun (fun paging _ => paging.written) .nil

end Search

namespace UploadEntry

theorem check_payload (entry : UploadEntry) : check entry.payload = .valid entry := by
  simp [check, payload, ClientInformation.check_payload]

theorem written (entry : UploadEntry) : Written (.one .uploadEntry) entry.data entry.payload :=
  .one <| .always nofun (.plain _) <| .always nofun (.plain _) <|
    .always nofun entry.clientInformation.written .nil

end UploadEntry

namespace Upload

theorem check_payload (upload : Upload) : check upload.payload = .valid upload := by
  simp [check, payload, UploadEntry.check_payload]

theorem written (upload : Upload) : Written (.one .upload) upload.data upload.payload :=
  .one <| .always nofun (.many (.map fun entry _ => entry.written)) .nil

end Upload

namespace UploadReceipt

/-- All that is told of the certificates can be said in JSON. -/
def Sayable (receipt : UploadReceipt) : Prop :=
  ∀ found ∈ receipt.certificates, Value.SayableMembers found

variable {receipt : UploadReceipt}

theorem certificates_wire (sayable : receipt.Sayable) :
    (receipt.certificates.map fun found => (Value.record found).wire) =
      receipt.certificates.map .record :=
  List.map_congr_left fun found member =>
    congrArg Value.record (Value.wireMembers_eq (sayable found member))

theorem check_payload (sayable : receipt.Sayable) : check receipt.payload = .valid receipt := by
  simp [check, payload, certificates_wire sayable, Check.mapping_anything]

theorem written (sayable : receipt.Sayable) :
    Written (.one .uploadReceipt) receipt.data receipt.payload := by
  simp only [payload, certificates_wire sayable]
  exact .one <| .always nofun (.plain _) .nil

end UploadReceipt

namespace Model

/-- A kind of record: how it is read, written and shown, what is in it, and which records of it can be said. -/
structure Kind where
  Record : Type
  check : Check Record
  payload : Record → Value
  /-- The wire form, as far as the platform writes it. -/
  encode : Record → Except Lapse Value := fun record => .ok (payload record)
  data : Record → Value
  freeForm : Record → List Value := fun _ => []
  moments : Record → List Moment := fun _ => []
  Sendable : Record → Prop := fun _ => True

/-- The record behind each model. -/
def kind : Model → Kind
  | serviceError => {
      Record := ServiceError
      check := ServiceError.check
      payload := ServiceError.payload
      encode := ServiceError.encode
      data := ServiceError.data
      freeForm := ServiceError.freeForm
      Sendable := ServiceError.Sayable }
  | serviceErrors => {
      Record := ServiceErrors
      check := ServiceErrors.check
      payload := ServiceErrors.payload
      encode := ServiceErrors.encode
      data := ServiceErrors.data
      freeForm := ServiceErrors.freeForm
      Sendable found := ∀ error ∈ found.errors, error.Sayable }
  | user => { Record := User, check := User.check, payload := User.payload, data := User.data }
  | company => {
      Record := Company, check := Company.check, payload := Company.payload, data := Company.data }
  | account => {
      Record := Account, check := Account.check, payload := Account.payload, data := Account.data }
  | application => {
      Record := Application
      check := Application.check
      payload := Application.payload
      data := Application.data }
  | issuingTemplate => {
      Record := IssuingTemplate
      check := IssuingTemplate.check
      payload := IssuingTemplate.payload
      encode := IssuingTemplate.encode
      data := IssuingTemplate.data
      freeForm := IssuingTemplate.freeForm
      Sendable := IssuingTemplate.Sayable }
  | usageMetadata => {
      Record := UsageMetadata
      check := UsageMetadata.check
      payload := UsageMetadata.payload
      data := UsageMetadata.data }
  | clientInformation => {
      Record := ClientInformation
      check := ClientInformation.check
      payload := ClientInformation.payload
      data := ClientInformation.data }
  | submission => {
      Record := Submission
      check := Submission.check
      payload := Submission.payload
      data := Submission.data }
  | requestRecord => {
      Record := RequestRecord
      check := RequestRecord.check
      payload := RequestRecord.payload
      data := RequestRecord.data }
  | submissionReceipt => {
      Record := SubmissionReceipt
      check := SubmissionReceipt.check
      payload := SubmissionReceipt.payload
      data := SubmissionReceipt.data
      Sendable receipt := receipt.records ≠ [] }
  | requestStatus => {
      Record := RequestStatus
      check := RequestStatus.check
      payload := RequestStatus.payload
      encode := RequestStatus.encode
      data := RequestStatus.data
      freeForm := RequestStatus.freeForm
      Sendable := RequestStatus.Sayable }
  | managedCertificate => {
      Record := ManagedCertificate
      check := ManagedCertificate.check
      payload := ManagedCertificate.payload
      data := ManagedCertificate.data }
  | certificateSummary => {
      Record := CertificateSummary
      check := CertificateSummary.check
      payload := CertificateSummary.payload
      data := CertificateSummary.data
      moments := CertificateSummary.moments
      Sendable := CertificateSummary.Dated }
  | searchResult => {
      Record := SearchResult
      check := SearchResult.check
      payload := SearchResult.payload
      data := SearchResult.data
      moments := SearchResult.moments
      Sendable result := ∀ summary ∈ result.certificates, summary.Dated }
  | operand => {
      Record := Operand
      check := Operand.check
      payload := Operand.payload
      encode := Operand.encode
      data := Operand.data
      freeForm := Operand.freeForm
      Sendable := Operand.Sayable }
  | expression => {
      Record := Expression
      check := Expression.check
      payload := Expression.payload
      encode := Expression.encode
      data := Expression.data
      freeForm := Expression.freeForm
      Sendable := Expression.Sayable }
  | paging => { Record := Paging, check := Paging.check, payload := Paging.payload, data := Paging.data }
  | search => {
      Record := Search
      check := Search.check
      payload := Search.payload
      encode := Search.encode
      data := Search.data
      freeForm := Search.freeForm
      Sendable search := search.expression.Sayable }
  | uploadEntry => {
      Record := UploadEntry
      check := UploadEntry.check
      payload := UploadEntry.payload
      data := UploadEntry.data }
  | upload => { Record := Upload, check := Upload.check, payload := Upload.payload, data := Upload.data }
  | uploadReceipt => {
      Record := UploadReceipt
      check := UploadReceipt.check
      payload := UploadReceipt.payload
      encode := UploadReceipt.encode
      data := UploadReceipt.data
      freeForm := UploadReceipt.freeForm
      Sendable := UploadReceipt.Sayable }

/-- In its wire form, every record comes out of its own check as it was, if its moments can. -/
theorem check_payload (model : Model) (record : model.kind.Record)
    (sendable : model.kind.Sendable record) :
    model.kind.check (model.kind.payload record) = .valid record ↔
      ∀ m ∈ model.kind.moments record, m.ToMinute := by
  cases model with
  | serviceError => exact iff_of_true (ServiceError.check_payload sendable) nofun
  | serviceErrors => exact iff_of_true (ServiceErrors.check_payload sendable) nofun
  | user => exact iff_of_true (User.check_payload record) nofun
  | company => exact iff_of_true (Company.check_payload record) nofun
  | account => exact iff_of_true (Account.check_payload record) nofun
  | application => exact iff_of_true (Application.check_payload record) nofun
  | issuingTemplate => exact iff_of_true (IssuingTemplate.check_payload sendable) nofun
  | usageMetadata => exact iff_of_true (UsageMetadata.check_payload record) nofun
  | clientInformation => exact iff_of_true (ClientInformation.check_payload record) nofun
  | submission => exact iff_of_true (Submission.check_payload record) nofun
  | requestRecord => exact iff_of_true (RequestRecord.check_payload record) nofun
  | submissionReceipt => exact iff_of_true (SubmissionReceipt.check_payload sendable) nofun
  | requestStatus => exact iff_of_true (RequestStatus.check_payload sendable) nofun
  | managedCertificate => exact iff_of_true (ManagedCertificate.check_payload record) nofun
  | certificateSummary => exact CertificateSummary.check_payload sendable
  | searchResult => exact SearchResult.check_payload sendable
  | operand => exact iff_of_true (Operand.check_payload sendable) nofun
  | expression => exact iff_of_true (Expression.check_payload sendable) nofun
  | paging => exact iff_of_true (Paging.check_payload record) nofun
  | search => exact iff_of_true (Search.check_payload sendable) nofun
  | uploadEntry => exact iff_of_true (UploadEntry.check_payload record) nofun
  | upload => exact iff_of_true (Upload.check_payload record) nofun
  | uploadReceipt => exact iff_of_true (UploadReceipt.check_payload sendable) nofun

end Model

end Issuance
