import Issuance.Proofs.Manager
import Issuance.Proofs.Resolution
import Issuance.Proofs.Submission
import Issuance.Proofs.Wire

/-! A request is submitted as it was made, for the application and the template of its zone. -/

namespace Issuance

/-- A text that does not count is missing or empty. -/
theorem filled?_eq_none {text : Option String} :
    filled? text = none ↔ text = none ∨ text = some "" := by
  cases text with
  | none => exact iff_of_true rfl (.inl rfl)
  | some found => simp [filled?, Option.filter]

namespace CustomField

/-- The kind of client that fields name: the value of the last one that names any, else a default. -/
inductive NamesKind (default : String) : List CustomField → String → Prop
  | last {before after : List CustomField} {field : CustomField} (naming : field.kind = .origin)
      (behind : ∀ later ∈ after, later.kind ≠ .origin) :
      NamesKind default (before ++ field :: after) field.value
  | unnamed {fields : List CustomField} (plain : ∀ field ∈ fields, field.kind ≠ .origin) :
      NamesKind default fields default

variable {default : String} {fields : List CustomField}

/-- A field that names a kind is what later ones may still replace. -/
@[simp] theorem origin_cons (field : CustomField) :
    origin default (field :: fields) =
      origin (if field.kind = .origin then field.value else default) fields := rfl

/-- One field more in front counts only if none behind it names a kind. -/
theorem NamesKind.cons {kind : String} (field : CustomField)
    (names : NamesKind (if field.kind = .origin then field.value else default) fields kind) :
    NamesKind default (field :: fields) kind := by
  cases names with
  | @last before after named naming behind =>
    exact @NamesKind.last default (field :: before) after named naming behind
  | unnamed plain =>
    by_cases naming : field.kind = .origin
    · -- Nothing behind the field names a kind, so that it is the last one to do so.
      rw [if_pos naming]
      exact @NamesKind.last default [] fields field naming plain
    · rw [if_neg naming]
      exact .unnamed (List.forall_mem_cons.mpr ⟨naming, plain⟩)

theorem namesKind_origin (default : String) (fields : List CustomField) :
    NamesKind default fields (origin default fields) := by
  -- The induction is for every default, which each field that names a kind replaces.
  induction fields generalizing default with
  | nil => exact .unnamed fun _ => nofun
  | cons field rest ih => exact .cons field (ih _)

/-- Fields that name no kind leave the one that was named before them. -/
theorem origin_of_plain (plain : ∀ field ∈ fields, field.kind ≠ .origin) :
    origin default fields = default := by
  induction fields with
  | nil => rfl
  | cons field rest ih =>
    obtain ⟨here, behind⟩ := List.forall_mem_cons.mp plain
    rw [origin_cons, if_neg here, ih behind]

/-- The kind that fields name is told by the last one that names any, and by nothing else. -/
theorem origin_eq_iff {kind : String} :
    origin default fields = kind ↔ NamesKind default fields kind := by
  constructor
  · rintro rfl
    exact namesKind_origin default fields
  · intro names
    cases names with
    | @last before after field naming behind =>
      -- What stands in front of the last naming field is replaced by it.
      show (before ++ field :: after).foldl _ default = _
      rw [List.foldl_append]
      show origin _ (field :: after) = _
      rw [origin_cons, if_pos naming, origin_of_plain behind]
    | unnamed plain => exact origin_of_plain plain

end CustomField

namespace Payload

/-- What is present is just what is given with a value. -/
theorem mem_given {entries : List (String × Option Value)} {name : String} {value : Value} :
    (name, value) ∈ given entries ↔ (name, some value) ∈ entries := by
  simp only [given, List.mem_filterMap, Option.map_eq_some_iff, Prod.mk.injEq]
  constructor
  · rintro ⟨⟨_, _⟩, member, value, rfl, rfl, rfl⟩
    exact member
  · intro member
    exact ⟨_, member, value, rfl, rfl, rfl⟩

end Payload

namespace Manager

/-- The zone that an operation works in: the one that it is given, or else the manager's. -/
inductive WorksIn (manager : Manager) (given : Option String) (zone : Zone) : Prop
  | own {text : String} (named : given = some text) (filled : text ≠ "")
      (parsed : Zone.parse text = .ok zone)
  | default {text : String} (unnamed : given = none ∨ given = some "")
      (usual : manager.zone = some text) (filled : text ≠ "") (parsed : Zone.parse text = .ok zone)

/-- What a request says when it is submitted, member by member; there is nothing else that it says. -/
inductive Declares (manager : Manager) (request : CertificateRequest) (zone : Zone)
    (application : Application) : String → Value → Prop
  | csr {csr : String} (signing : request.csr = some csr) :
      Declares manager request zone application "certificateSigningRequest" (.text csr)
  | application : Declares manager request zone application "applicationId" (.text application.id)
  | template {templateId : String} (aliased : zone.templateAlias ≠ "")
      (known : application.templateId? zone.templateAlias = some templateId) :
      Declares manager request zone application "certificateIssuingTemplateId" (.text templateId)
  | client {kind : String}
      (named : CustomField.NamesKind "cert-lifecycle-manager" request.customFields kind) :
      Declares manager request zone application "apiClientInformation"
        (.record [("type", .text kind), ("identifier", .text manager.identifier)])
  | usage {location : Location} (located : request.location = some location) :
      Declares manager request zone application "certificateUsageMetadata" (.list [.record [
        ("appName", .text (if location.workload = "" then "Default" else location.workload)),
        ("nodeName", .text location.node)]])
  | validity (limited : 0 < request.validityHours) :
      Declares manager request zone application "validityPeriod"
        (.text ("PT" ++ toString request.validityHours ++ "H"))

variable {manager : Manager} {request : CertificateRequest} {zone : Zone}
  {application : Application} {csr : String}

/-- The zone of an operation is found exactly where it may come from. -/
theorem zoneFor_eq_ok {given : Option String} :
    manager.zoneFor given = .ok zone ↔ manager.WorksIn given zone := by
  -- Whatever text it is that counts, the zone is what that text reads as.
  have read : manager.zoneFor given = .ok zone ↔
      ∃ text, (filled? given).or (filled? manager.zone) = some text ∧ Zone.parse text = .ok zone := by
    unfold zoneFor
    cases (filled? given).or (filled? manager.zone) with
    | none => simp
    | some text => cases parsed : Zone.parse text <;> simp [parsed]
  rw [read]
  constructor
  · rintro ⟨text, counts, parsed⟩
    rcases Option.or_eq_some_iff.mp counts with own | ⟨unnamed, usual⟩
    · obtain ⟨named, filled⟩ := filled?_eq_some.mp own
      exact .own named filled parsed
    · obtain ⟨usual, filled⟩ := filled?_eq_some.mp usual
      exact .default (filled?_eq_none.mp unnamed) usual filled parsed
  · intro worksIn
    cases worksIn with
    | own named filled parsed =>
      exact ⟨_, Option.or_eq_some_iff.mpr (.inl (filled?_eq_some.mpr ⟨named, filled⟩)), parsed⟩
    | default unnamed usual filled parsed =>
      refine ⟨_, Option.or_eq_some_iff.mpr (.inr ⟨?_, ?_⟩), parsed⟩
      · exact filled?_eq_none.mpr unnamed
      · exact filled?_eq_some.mpr ⟨usual, filled⟩

/-- The template of a zone is missing exactly if its alias is one that the application does not have. -/
theorem templateOf_eq_error {failure : Failure} :
    templateOf application zone = .error failure ↔
      zone.templateAlias ≠ "" ∧ application.templateId? zone.templateAlias = none ∧
        .aliasNotFound zone = failure := by
  unfold templateOf
  by_cases blank : zone.templateAlias = ""
  · simp [blank]
  · have named : zone.templateAlias.isEmpty = false := String.isEmpty_eq_false_iff.mpr blank
    cases application.templateId? zone.templateAlias <;> simp [blank, named]

/-- A zone without an alias has no template of its own; any other has the one its alias stands for. -/
theorem templateOf_eq_ok {template : Option String} :
    templateOf application zone = .ok template ↔
      (zone.templateAlias = "" ∧ none = template) ∨
        (zone.templateAlias ≠ "" ∧ ∃ templateId,
          application.templateId? zone.templateAlias = some templateId ∧
            some templateId = template) := by
  unfold templateOf
  by_cases blank : zone.templateAlias = ""
  · simp [blank]
  · have named : zone.templateAlias.isEmpty = false := String.isEmpty_eq_false_iff.mpr blank
    cases application.templateId? zone.templateAlias <;> simp [blank, named]

/-- The one entry of usage metadata, for a request with a location. -/
theorem usageMetadata_payload (location : Option Location) :
    ((usageMetadata location).map fun found => Value.list (found.map UsageMetadata.payload)) =
      location.map fun located => .list [.record [
        ("appName", .text (if located.workload = "" then "Default" else located.workload)),
        ("nodeName", .text located.node)]] := by
  cases location with
  | none => rfl
  | some located =>
    -- A workload that is not given goes by the name of the default one.
    by_cases blank : located.workload = ""
    · simp [usageMetadata, UsageMetadata.payload, Payload.record, defaultWorkload, blank]
    · simp [usageMetadata, UsageMetadata.payload, Payload.record, blank]

/-- A validity is asked for only where the hours are positive, and not so many that nothing writes them. -/
theorem validityPeriod_eq_ok {hours : Int} {validity : Option String} :
    validityPeriod hours = .ok validity ↔ (hours ≤ 0 ∧ none = validity) ∨
      (0 < hours ∧ Platform.isTooLong hours = false ∧
        some ("PT" ++ toString hours ++ "H") = validity) := by
  unfold validityPeriod Platform.decimal
  by_cases positive : 0 < hours
  · rw [if_pos positive]
    cases Platform.isTooLong hours <;> simp [Except.map, positive]
  · simp [positive, Int.not_lt.mp positive]

/-- More hours than can be written are no validity. -/
theorem validityPeriod_of_tooLong {hours : Int} (positive : 0 < hours)
    (tooLong : Platform.isTooLong hours = true) : validityPeriod hours = .error .value := by
  rw [validityPeriod, if_pos positive, Platform.decimal, if_pos tooLong]
  rfl

/-- The members that may be submitted for a request, those that it leaves out among them. -/
def submissionEntries (manager : Manager) (request : CertificateRequest)
    (csr applicationId : String) (template validity : Option String) :
    List (String × Option Value) := [
  ("certificateSigningRequest", some (.text csr)),
  ("applicationId", some (.text applicationId)),
  ("certificateIssuingTemplateId", template.map .text),
  ("existingCertificateId", none),
  ("apiClientInformation", some (manager.clientInformation request.customFields).payload),
  ("certificateUsageMetadata",
    (usageMetadata request.location).map fun found => .list (found.map UsageMetadata.payload)),
  ("reuseCSR", none),
  ("validityPeriod", validity.map .text)]

/-- An entry has a value exactly if the request declares that member. -/
theorem mem_submissionEntries (signing : request.csr = some csr) {template validity : Option String}
    (found : templateOf application zone = .ok template)
    (written : validityPeriod request.validityHours = .ok validity) {name : String} {value : Value} :
    (name, some value) ∈ manager.submissionEntries request csr application.id template validity ↔
      manager.Declares request zone application name value := by
  simp only [submissionEntries, usageMetadata_payload, List.mem_cons, List.not_mem_nil,
    Prod.mk.injEq, or_false]
  constructor
  · -- Each line of the table that has a value is one way to declare a member.
    rintro (⟨rfl, same⟩ | ⟨rfl, same⟩ | ⟨rfl, same⟩ | ⟨rfl, same⟩ | ⟨rfl, same⟩ | ⟨rfl, same⟩ |
      ⟨rfl, same⟩ | ⟨rfl, same⟩)
    · cases same
      exact .csr signing
    · cases same
      exact .application
    · obtain ⟨templateId, rfl, rfl⟩ := Option.map_eq_some_iff.mp same.symm
      rcases templateOf_eq_ok.mp found with ⟨_, none⟩ | ⟨aliased, _, known, some⟩
      · cases none
      · cases some
        exact .template aliased known
    · cases same
    · cases same
      exact .client (CustomField.origin_eq_iff.mp rfl)
    · obtain ⟨location, located, rfl⟩ := Option.map_eq_some_iff.mp same.symm
      exact .usage located
    · cases same
    · obtain ⟨_, limited, rfl⟩ := Option.map_eq_some_iff.mp same.symm
      rcases validityPeriod_eq_ok.mp written with ⟨_, none⟩ | ⟨positive, _, some⟩
      · cases none.trans limited
      · cases some.trans limited
        exact .validity positive
  · intro declares
    cases declares with
    | csr signs =>
      cases signing.symm.trans signs
      exact .inl ⟨rfl, rfl⟩
    | application => exact .inr (.inl ⟨rfl, rfl⟩)
    | template aliased known =>
      -- The template that was found is the one its alias stands for.
      rcases templateOf_eq_ok.mp found with ⟨blank, _⟩ | ⟨_, _, other, rfl⟩
      · exact absurd blank aliased
      · cases known.symm.trans other
        simp
    | client named =>
      rw [← CustomField.origin_eq_iff.mpr named]
      simp [clientInformation, ClientInformation.payload, Payload.record, clientKind]
    | usage located => simp [located]
    | validity limited =>
      rcases validityPeriod_eq_ok.mp written with ⟨unlimited, _⟩ | ⟨_, _, rfl⟩
      · omega
      · simp

/-- What is submitted for a request has each member that the request declares, once, and no other. -/
theorem payload_submission (signing : request.csr = some csr) {template validity : Option String}
    (found : templateOf application zone = .ok template)
    (written : validityPeriod request.validityHours = .ok validity) :
    ∃ members,
      (manager.submission request csr application.id template validity).payload = .record members ∧
      (members.map (·.1)).Nodup ∧
      ∀ name value, (name, value) ∈ members ↔ manager.Declares request zone application name value := by
  let entries := manager.submissionEntries request csr application.id template validity
  refine ⟨Payload.given entries, rfl, ?_, fun name value => ?_⟩
  · -- The names of the table are different from each other, whatever is left out of it.
    refine (Payload.sublist_given entries).nodup ?_
    simp [entries, submissionEntries]
  · rw [Payload.mem_given]
    exact mem_submissionEntries signing found written

/-- What a request needs in order to be submitted at all, and the zone that it is submitted in. -/
structure Submittable (manager : Manager) (session : Session) (request : CertificateRequest)
    (zone : Zone) (csr : String) : Prop where
  own : request.csrOrigin ≠ .serviceGenerated
  company : session.account.company.isSome
  signing : request.csr = some csr
  filled : csr ≠ ""
  zoned : manager.WorksIn request.zone zone

variable {session : Session}

/-- A request is prepared by one lookup, the template of its zone and a validity that can be written. -/
theorem hold_prepareRequest_of_submittable
    (submittable : manager.Submittable session request zone csr) {dialogue : Dialogue}
    {lookup : Arrival} {rest : List Arrival} (next : dialogue.arrivals = lookup :: rest)
    (told : lookup.reply.Tells Application.check 200 application) :
    (manager.prepareRequest (some session) request).hold dialogue =
      (((templateOf application zone).mapError .failed).bind fun template =>
          ((validityPeriod request.validityHours).mapError .lapsed).map fun validity =>
            ⟨session, zone, manager.submission request csr application.id template validity⟩,
        dialogue.called (.application session zone.application)) := by
  have zoned := zoneFor_eq_ok.mpr submittable.zoned
  have signing := filled?_eq_some.mpr ⟨submittable.signing, submittable.filled⟩
  have looked := Client.hold_application session dialogue zone.application
  rw [Dialogue.learns_decodeApplication_eq_ok.mpr ⟨lookup, rest, next, told⟩] at looked
  unfold prepareRequest resolveZone
  -- Up to the lookup, everything is settled by what the request needs.
  rw [if_neg submittable.own,
    Run.hold_bind_ok (hold_authenticated submittable.company "request a certificate" dialogue),
    signing]
  dsimp only
  rw [zoned, Run.hold_bind_ok (rfl : (Run.ofOutcome (.ok zone)).hold dialogue = _), bind_assoc,
    Run.hold_bind_ok looked]
  cases templateOf application zone with
  | error failure => rfl
  | ok template => cases validityPeriod request.validityHours <;> rfl

/--
A request is submitted exactly once and as it was made, and records the first id of its receipt.

For an alias that the application does not know it is not submitted at all.
Neither is one whose hours of validity have more digits than are ever written: that ends the run.
-/
theorem requestCertificate_submits_declared
    (submittable : manager.Submittable session request zone csr) {lookup : Arrival}
    (told : lookup.reply.Tells Application.check 200 application) (rest : List Arrival) :
    let held := (manager.requestCertificate (some session) request).on (lookup :: rest)
    let asked := Call.application session zone.application
    let tooLong := 0 < request.validityHours ∧
      4300 < (Nat.toDigits 10 request.validityHours.natAbs).length
    (zone.templateAlias ≠ "" → application.templateId? zone.templateAlias = none →
      held.1 = .error (.failed (.aliasNotFound zone)) ∧ held.2.sent = [asked] ∧
        held.2.recorded = none) ∧
    (zone.templateAlias = "" ∨ application.templateId? zone.templateAlias ≠ none →
      (¬ tooLong → ∃ members,
        held.2.sent = [asked, .posting session Endpoint.certificateRequests (.record members)] ∧
        (members.map (·.1)).Nodup ∧
        (∀ name value, (name, value) ∈ members ↔
          manager.Declares request zone application name value) ∧
        (∀ requestId, held.1 = .ok requestId ↔ ∃ answer later first others,
          rest = answer :: later ∧ answer.reply.Tells SubmissionReceipt.check 201 ⟨first :: others⟩ ∧
            first.id = requestId) ∧
        held.2.recorded = held.1.toOption) ∧
      (tooLong → held.1 = .error (.lapsed .value) ∧ held.2.sent = [asked] ∧
        held.2.recorded = none)) := by
  intro held asked tooLong
  let dialogue : Dialogue := { arrivals := lookup :: rest }
  have next : dialogue.arrivals = lookup :: rest := rfl
  have prepared := hold_prepareRequest_of_submittable submittable next told
  have through : held = (manager.prepareRequest (some session) request >>= submitPrepared).hold
      dialogue := by
    rw [← requestCertificate_eq]
    rfl
  -- What is not prepared is not submitted, so that the lookup is all there is.
  have unprepared {stop : Stop}
      (stopped : (manager.prepareRequest (some session) request).hold dialogue =
        (.error stop, dialogue.called asked)) :
      held.1 = .error stop ∧ held.2.sent = [asked] ∧ held.2.recorded = none := by
    rw [through, Run.hold_bind_error stopped]
    exact ⟨rfl, dialogue.called_sent asked, dialogue.called_recorded asked⟩
  constructor
  · intro aliased unknown
    rw [templateOf_eq_error.mpr ⟨aliased, unknown, rfl⟩] at prepared
    exact unprepared prepared
  · intro known
    obtain ⟨template, found⟩ : ∃ template, templateOf application zone = .ok template := by
      cases found : templateOf application zone with
      | ok template => exact ⟨template, rfl⟩
      | error failure =>
        obtain ⟨aliased, unknown, _⟩ := templateOf_eq_error.mp found
        exact absurd known (not_or.mpr ⟨aliased, not_not.mpr unknown⟩)
    rw [found] at prepared
    refine ⟨fun short => ?_, fun ⟨positive, tooLong⟩ => ?_⟩
    · obtain ⟨validity, written⟩ : ∃ validity, validityPeriod request.validityHours = .ok validity := by
        by_cases positive : 0 < request.validityHours
        · have short : Platform.isTooLong request.validityHours = false :=
            Bool.eq_false_iff.mpr fun tooLong => short ⟨positive, Platform.isTooLong_iff.mp tooLong⟩
          exact ⟨_, validityPeriod_eq_ok.mpr (.inr ⟨positive, short, rfl⟩)⟩
        · exact ⟨_, validityPeriod_eq_ok.mpr (.inl ⟨Int.not_lt.mp positive, rfl⟩)⟩
      rw [written] at prepared
      obtain ⟨members, payload, once, declared⟩ :=
        payload_submission submittable.signing found written
      -- The submission takes the reply behind that to the lookup.
      obtain ⟨outcome, log, submitted, receipt⟩ := hold_submitRecorded session
        (manager.submission request csr application.id template validity)
        "Certificate request submitted"
        (fun requestId => [("request_id", .text requestId), ("zone", .text zone.text)])
        (dialogue.called asked)
      have ended := through.trans ((Run.hold_bind_ok prepared).trans submitted)
      rw [Dialogue.called_arrivals] at receipt
      refine ⟨members, ?_, once, declared, ?_, ?_⟩
      · rw [ended]
        show (Dialogue.called _ _).sent = _
        rw [Dialogue.called_sent, Dialogue.called_sent, Call.submission, payload]
        rfl
      · rw [ended]
        exact receipt
      · rw [ended]
        show outcome.toOption.or (dialogue.called asked).recorded = outcome.toOption
        rw [Dialogue.called_recorded, Option.or_none]
    · rw [validityPeriod_of_tooLong positive (Platform.isTooLong_iff.mpr tooLong)] at prepared
      exact unprepared prepared

/-- A request for more hours than can be written ends behind its lookup. -/
theorem hold_requestCertificate_of_tooLong
    (submittable : manager.Submittable session request zone csr) {dialogue : Dialogue}
    {lookup : Arrival} {rest : List Arrival} (next : dialogue.arrivals = lookup :: rest)
    (told : lookup.reply.Tells Application.check 200 application) {template : Option String}
    (templated : templateOf application zone = .ok template)
    (positive : 0 < request.validityHours)
    (tooLong : Platform.isTooLong request.validityHours = true) :
    (manager.requestCertificate (some session) request).hold dialogue =
      (.error (.lapsed .value), dialogue.called (.application session zone.application)) := by
  have prepared := hold_prepareRequest_of_submittable submittable next told
  rw [templated, validityPeriod_of_tooLong positive tooLong] at prepared
  rw [requestCertificate_eq]
  exact Run.hold_bind_error prepared

/-- The reply that tells of an application with a template under one alias. -/
def aliasReply : Reply := .response ⟨200, "OK", Utf8.encode
  ("\x7b\"id\":\"app-1\",\"certificateIssuingTemplateAliasIdMap\":" ++
    "\x7b\"Default\":\"tpl-1\"\x7d\x7d")⟩

/-- The reply that tells of one request that was made. -/
def receiptReply : Reply := .response ⟨201, "Created", Utf8.encode
  "\x7b\"certificateRequests\":[\x7b\"id\":\"req-7\"\x7d]\x7d"⟩

/-- A request with an alias, two notes on its client, a node and a validity is submitted with them all. -/
theorem requestCertificate_submits_declared_aliased :
    let session : Session := ⟨"key", { company := some ⟨"co-1", "Example"⟩ }⟩
    let manager : Manager := ⟨some "Payments\\Default", .ofInt 2, .ofInt 1, "10.0.0.1", .system⟩
    let request : CertificateRequest := {
      csr := some "csr", location := some ⟨"node-1", ""⟩, validityHours := 48
      customFields := [⟨"", "first", .origin⟩, ⟨"", "second", .origin⟩, ⟨"", "note", .plain⟩] }
    let held := (manager.requestCertificate (some session) request).on
      [⟨.zero, aliasReply⟩, ⟨.zero, receiptReply⟩]
    held.1 = .ok "req-7" ∧ held.2.recorded = some "req-7" ∧
      ∃ members, held.2.sent = [.application session "Payments",
          .posting session Endpoint.certificateRequests (.record members)] ∧
        ("certificateIssuingTemplateId", .text "tpl-1") ∈ members ∧
        ("apiClientInformation",
          .record [("type", .text "second"), ("identifier", .text "10.0.0.1")]) ∈ members ∧
        ("certificateUsageMetadata",
          .list [.record [("appName", .text "Default"), ("nodeName", .text "node-1")]]) ∈ members ∧
        ("validityPeriod", .text "PT48H") ∈ members ∧
        ∀ value, ("existingCertificateId", value) ∉ members := by
  intro session manager request held
  have submittable : manager.Submittable session request ⟨"Payments", "Default"⟩ "csr" :=
    { own := by decide, company := rfl, signing := rfl, filled := by decide
      zoned := .default (.inl rfl) rfl (by decide) (by decide +kernel) }
  let lookup : Arrival := ⟨.zero, aliasReply⟩
  have told : lookup.reply.Tells Application.check 200 ⟨"app-1", "", [("Default", "tpl-1")]⟩ :=
    ⟨_, rfl, rfl, by decide +kernel⟩
  have receipt : receiptReply.Tells SubmissionReceipt.check 201 ⟨[⟨"req-7", none⟩]⟩ :=
    ⟨_, rfl, rfl, by decide +kernel⟩
  obtain ⟨members, sent, _, declared, returns, recorded⟩ :=
    ((requestCertificate_submits_declared submittable told [⟨.zero, receiptReply⟩]).2
      (.inr (by decide))).1 fun ⟨_, tooLong⟩ => absurd tooLong (by decide +kernel)
  have returned : held.1 = .ok "req-7" := (returns _).mpr ⟨_, _, _, _, rfl, receipt, rfl⟩
  refine ⟨returned, ?_, members, sent, (declared _ _).mpr ?_, (declared _ _).mpr ?_,
    (declared _ _).mpr ?_, (declared _ _).mpr ?_, fun value member => ?_⟩
  · exact recorded.trans (by rw [returned]; rfl)
  · exact .template (by decide) rfl
  · exact .client (@CustomField.NamesKind.last _ [⟨"", "first", .origin⟩] _
      ⟨"", "second", .origin⟩ rfl (by decide))
  · have located : request.location = some ⟨"node-1", ""⟩ := rfl
    exact .usage located
  · exact .validity (by decide)
  · -- No member that may be declared goes by that name.
    have declares := (declared _ _).mp member
    generalize named : "existingCertificateId" = name at declares
    cases declares <;> exact absurd named (by decide)

/-- A request that lacks nothing, for 10^4300 hours, is not submitted: the lookup is its only call. -/
theorem requestCertificate_tooLong_submits_nothing :
    let session : Session := ⟨"key", { company := some ⟨"co-1", "Example"⟩ }⟩
    let manager : Manager := ⟨none, .ofInt 2, .ofInt 1, "host", .system⟩
    let request : CertificateRequest := {
      csr := some "csr", zone := some "Payments", validityHours := (10 ^ 4300 : Nat) }
    let held := (manager.requestCertificate (some session) request).on
      [⟨.zero, aliasReply⟩, ⟨.zero, receiptReply⟩]
    manager.Submittable session request ⟨"Payments", ""⟩ "csr" ∧
      (∃ application, aliasReply.Tells Application.check 200 application) ∧
      0 < request.validityHours ∧ held.1 = .error (.lapsed .value) ∧
      held.2.sent = [.application session "Payments"] ∧ ∀ call ∈ held.2.sent, call.method ≠ "POST" := by
  intro session manager request held
  have submittable : manager.Submittable session request ⟨"Payments", ""⟩ "csr" :=
    { own := by decide, company := rfl, signing := rfl, filled := by decide
      zoned := .own rfl (by decide) (by decide +kernel) }
  let dialogue : Dialogue := { arrivals := [⟨.zero, aliasReply⟩, ⟨.zero, receiptReply⟩] }
  have told : aliasReply.Tells Application.check 200 ⟨"app-1", "", [("Default", "tpl-1")]⟩ :=
    ⟨_, rfl, rfl, by decide +kernel⟩
  have positive : 0 < request.validityHours := by decide +kernel
  have ended : held = (.error (.lapsed .value), dialogue.called (.application session "Payments")) :=
    hold_requestCertificate_of_tooLong submittable rfl told rfl positive (by decide +kernel)
  have sent : held.2.sent = [.application session "Payments"] := by
    rw [ended]
    exact dialogue.called_sent _
  refine ⟨submittable, ⟨_, told⟩, positive, by rw [ended], sent, fun call made => ?_⟩
  rw [sent, List.mem_singleton] at made
  rw [made]
  exact (by decide : ("GET" : String) ≠ "POST")

end Manager

end Issuance
