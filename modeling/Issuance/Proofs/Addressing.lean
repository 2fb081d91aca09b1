import Issuance.Proofs.DotSegments
import Issuance.Proofs.Provenance
import Issuance.Proofs.Writes

/-! Every call goes to an endpoint by identifiers that were supplied or told, unless they lead elsewhere. -/

namespace Issuance

/-- The endpoints whose paths have no place for an identifier. -/
def Endpoint.fixed : List String :=
  [userAccounts, certificateRequests, certificates, certificateSearch]

/-- A call goes to an endpoint without identifiers, or to that of a lookup by known identifiers. -/
def Call.Addresses (known : String → Prop) (call : Call) : Prop :=
  call.path ∈ Endpoint.fixed ∨
    ∃ lookup : Lookup, call.path = lookup.path ∧ ∀ identifier ∈ lookup.identifiers, known identifier

/-- An identifier that a reply tells: of a certificate or a request found, or of what was issued. -/
inductive Reply.Identifies (reply : Reply) : String → Prop where
  | certificate {result : SearchResult} {record : CertificateSummary}
      (tells : reply.Tells SearchResult.check 200 result) (found : record ∈ result.certificates) :
      Identifies reply record.id
  | request {result : SearchResult} {record : CertificateSummary}
      (tells : reply.Tells SearchResult.check 200 result) (found : record ∈ result.certificates) :
      Identifies reply record.requestId
  | issued {status : RequestStatus} (tells : reply.Tells RequestStatus.check 200 status) :
      Identifies reply status.certificateId

/-- All identifiers that are still to be told are known. -/
def Dialogue.TellsKnown (known : String → Prop) (dialogue : Dialogue) : Prop :=
  ∀ arrival ∈ dialogue.arrivals, ∀ identifier,
    arrival.reply.Identifies identifier → known identifier

/-- As long as it is told nothing else, a run goes to endpoints by what is known, and gives what is. -/
structure Run.Addresses {α : Type} (run : Run α) (known : String → Prop) (post : α → Prop) :
    Prop where
  addressed : ∀ {dialogue}, dialogue.TellsKnown known →
    (run.hold dialogue).2.TellsKnown known ∧
    (∃ calls, (run.hold dialogue).2.sent = dialogue.sent ++ calls ∧
      ∀ call ∈ calls, call.Addresses known) ∧
    ∀ value, (run.hold dialogue).1 = .ok value → post value

namespace Run.Addresses

variable {α β : Type} {known : String → Prop} {post : α → Prop}

/-- What neither sends nor takes anything goes nowhere. -/
theorem of_silent {run : Run α} (sent : ∀ dialogue, (run.hold dialogue).2.sent = dialogue.sent)
    (arrivals : ∀ dialogue, (run.hold dialogue).2.arrivals = dialogue.arrivals)
    (holds : ∀ dialogue value, (run.hold dialogue).1 = .ok value → post value) :
    run.Addresses known post := by
  constructor
  intro dialogue tells
  refine ⟨?_, ⟨[], by rw [sent, List.append_nil], nofun⟩, holds dialogue⟩
  unfold Dialogue.TellsKnown
  rw [arrivals]
  exact tells

theorem pure {value : α} (holds : post value) : (Pure.pure value : Run α).Addresses known post :=
  of_silent (fun _ => rfl) (fun _ => rfl) fun _ other same => by cases same; exact holds

/-- What ends a run has no value that anything could be known of. -/
theorem throw (stop : Stop) : (MonadExcept.throw stop : Run α).Addresses known post :=
  of_silent (fun _ => rfl) (fun _ => rfl) fun _ _ given => by cases given

theorem fail (failure : Failure) : (Run.fail failure : Run α).Addresses known post :=
  throw (.failed failure)

theorem get : (MonadState.get : Run Dialogue).Addresses known fun _ => True :=
  of_silent (fun _ => rfl) (fun _ => rfl) fun _ _ _ => trivial

theorem log (level : Level) (event : String) (fields : Members) :
    (Run.log level event fields).Addresses known fun _ => True :=
  of_silent (fun _ => rfl) (fun _ => rfl) fun _ _ _ => trivial

theorem sleep (sleeper : Sleeper) (seconds : Double) :
    (Run.sleep sleeper seconds).Addresses known fun _ => True := by
  unfold Run.sleep
  split
  · exact throw _
  · exact of_silent (fun _ => rfl) (fun _ => rfl) fun _ _ _ => trivial

theorem recordPickup (pickupId : String) :
    (Run.recordPickup pickupId).Addresses known fun _ => True :=
  of_silent (fun _ => rfl) (fun _ => rfl) fun _ _ _ => trivial

theorem ofOutcome {outcome : Outcome α} (holds : ∀ value, outcome = .ok value → post value) :
    (Run.ofOutcome outcome).Addresses known post := by
  cases outcome with
  | ok value => exact .pure (holds value rfl)
  | error failure => exact .fail failure

theorem ofPlatform (given : Except Lapse α) :
    (Run.ofPlatform given).Addresses known fun _ => True := by
  cases given with
  | ok value => exact .pure trivial
  | error lapse => exact .throw _

/-- A run in two parts goes where its parts go, the second by what the first has come to know. -/
theorem bind {run : Run α} {next : α → Run β} {final : β → Prop}
    (first : run.Addresses known post)
    (second : ∀ value, post value → (next value).Addresses known final) :
    (run >>= next).Addresses known final := by
  constructor
  intro dialogue tells
  obtain ⟨tellsStill, ⟨calls, sent, addressed⟩, holds⟩ := first.addressed tells
  rw [hold_bind]
  cases held : run.hold dialogue with
  | mk outcome later =>
    rw [held] at tellsStill sent holds
    -- A first part that stops is all there is.
    cases outcome with
    | error stop => exact ⟨tellsStill, ⟨calls, sent, addressed⟩, nofun⟩
    | ok value =>
      obtain ⟨tellsToo, ⟨others, more, addressedToo⟩, holdsToo⟩ :=
        (second value (holds value rfl)).addressed tellsStill
      refine ⟨tellsToo, ⟨calls ++ others, ?_, ?_⟩, holdsToo⟩
      · rw [more, sent, List.append_assoc]
      · intro call member
        exact (List.mem_append.mp member).elim (addressed call) (addressedToo call)

theorem ofOutcome_bind {outcome : Outcome α} {next : α → Run β} {final : β → Prop}
    (second : ∀ value, outcome = .ok value → (next value).Addresses known final) :
    (Run.ofOutcome outcome >>= next).Addresses known final :=
  (ofOutcome fun _ same => same).bind second

/-- Where the value of the first part does not matter, the second goes on with any. -/
theorem andThen {run : Run α} {next : α → Run β} {final : β → Prop}
    (first : run.Addresses known fun _ => True)
    (second : ∀ value, (next value).Addresses known final) :
    (run >>= next).Addresses known final :=
  first.bind fun value _ => second value

/-- What the value is told as makes no difference to the calls. -/
theorem map {run : Run α} (f : α → β) (addresses : run.Addresses known post) :
    (f <$> run).Addresses known fun _ => True := by
  rw [map_eq_pure_bind]
  exact addresses.bind fun _ _ => .pure trivial

/-- A call goes where its path leads, and its value is known from the reply that it takes. -/
theorem of_call {run : Run α} {call : Call}
    (held : ∀ dialogue, (run.hold dialogue).2 = dialogue.called call)
    (addresses : call.Addresses known)
    (holds : ∀ dialogue value, dialogue.TellsKnown known → (run.hold dialogue).1 = .ok value →
      post value) : run.Addresses known post := by
  constructor
  intro dialogue tells
  refine ⟨?_, ⟨[call], ?_, by simpa using addresses⟩, fun value => holds dialogue value tells⟩
  · rw [held]
    unfold Dialogue.TellsKnown
    rw [Dialogue.called_arrivals]
    exact fun arrival member => tells arrival (List.mem_of_mem_tail member)
  · rw [held, Dialogue.called_sent]

/-- A call whose response is of no concern for identifiers. -/
theorem of_read {run : Run α} {call : Call} {read : Response → Outcome α}
    (held : ∀ dialogue, run.hold dialogue = (dialogue.learns read, dialogue.called call))
    (addresses : call.Addresses known) : run.Addresses known fun _ => True :=
  .of_call (fun dialogue => by rw [held]) addresses fun _ _ _ _ => trivial

/-- A call whose response is decoded learns a value that the reply tells. -/
theorem of_decode {run : Run α} {call : Call} {check : Check α} {operation : String}
    (held : ∀ dialogue, run.hold dialogue =
      (dialogue.learns fun response => response.decode check operation, dialogue.called call))
    (addresses : call.Addresses known)
    (holds : ∀ (reply : Reply) value, reply.Tells check 200 value →
      (∀ identifier, reply.Identifies identifier → known identifier) → post value) :
    run.Addresses known post := by
  -- The reply that is taken is the next of those that tell only what is known.
  refine .of_call (fun dialogue => by rw [held]) addresses fun dialogue value tells given => ?_
  rw [held] at given
  obtain ⟨arrival, rest, next, told⟩ := (Dialogue.learns_decode_eq_ok operation).mp given
  exact holds arrival.reply value told (tells arrival (next ▸ List.mem_cons_self))

end Run.Addresses

/-- A call to the path of a lookup goes there by the identifiers of the lookup. -/
theorem Call.Addresses.of_lookup {known : String → Prop} {call : Call} (lookup : Lookup)
    (path : call.path = lookup.path) (all : ∀ identifier ∈ lookup.identifiers, known identifier) :
    call.Addresses known :=
  .inr ⟨lookup, path, all⟩

namespace Client

variable {known : String → Prop} (session : Session)

theorem addresses_account (apiKey : String) : (account apiKey).Addresses known fun _ => True :=
  .of_read (hold_account · apiKey) (.inl (.head _))

theorem addresses_submit (submission : Submission) :
    (submit session submission).Addresses known fun _ => True :=
  .of_read (hold_submit session · submission) (.inl (.tail _ (.head _)))

theorem addresses_application {name : String} (knows : known name) :
    (application session name).Addresses known fun _ => True :=
  .of_read (hold_application session · name)
    (.of_lookup (.application name) rfl (by simpa [Lookup.identifiers] using knows))

theorem addresses_issuingTemplate {name templateAlias : String} (knows : known name)
    (knowsToo : known templateAlias) :
    (issuingTemplate session name templateAlias).Addresses known fun _ => True :=
  .of_read (hold_issuingTemplate session · name templateAlias)
    (.of_lookup (.issuingTemplate name templateAlias) rfl
      (by simpa [Lookup.identifiers] using ⟨knows, knowsToo⟩))

theorem addresses_certificate {certificateId : String} (knows : known certificateId) :
    (certificate session certificateId).Addresses known fun _ => True :=
  .of_read (hold_certificate session · certificateId)
    (.of_lookup (.certificate certificateId) rfl (by simpa [Lookup.identifiers] using knows))

theorem addresses_contents {certificateId : String} (knows : known certificateId)
    (order : Option ChainOrder) :
    (contents session certificateId order).Addresses known fun _ => True :=
  .of_read (hold_send (.reading session (Endpoint.certificateContents certificateId)
      (order.map chainParameters)))
    (.of_lookup (.contents certificateId) rfl (by simpa [Lookup.identifiers] using knows))

/-- The certificate that a status tells of is known from its reply. -/
theorem addresses_status {requestId : String} (knows : known requestId) :
    (status session requestId).Addresses known fun found => known found.certificateId :=
  .of_decode (hold_status session · requestId)
    (.of_lookup (.status requestId) rfl (by simpa [Lookup.identifiers] using knows))
    fun _ _ tells told => told _ (.issued tells)

/-- The certificates that a search finds are known from its reply, and so are their requests. -/
theorem addresses_search (wanted : Search) : (search session wanted).Addresses known
    fun result => ∀ record ∈ result.certificates, known record.id ∧ known record.requestId :=
  (Run.Addresses.ofPlatform wanted.encode).andThen fun payload =>
    .of_decode (hold_send_read (.posting session _ payload) _)
      (.inl (.tail _ (.tail _ (.tail _ (.head _))))) fun _ _ tells told _ found =>
        ⟨told _ (.certificate tells found), told _ (.request tells found)⟩

end Client

namespace Polling

variable {known : String → Prop} (session : Session) {requestId : String} (knows : known requestId)
include knows

theorem addresses_observe (timeout : Double) :
    (observe session requestId timeout).Addresses known fun found => known found.certificateId := by
  -- One look is one call, and what it passes on is the status that it was told.
  refine (Client.addresses_status session knows).bind fun status told => ?_
  split
  · exact (Run.Addresses.log _ _ _).andThen fun _ => .fail _
  · split
    · exact .fail _
    · exact .pure told

theorem addresses_readUntilFinal (sleeper : Sleeper) (timeout interval start : Double)
    (reads : Nat) : (readUntilFinal sleeper session requestId timeout interval start reads).Addresses known
      fun found => known found.certificateId := by
  -- The induction is on the reads that are left, all of which are of the same request.
  induction reads with
  | zero => exact .throw _
  | succ reads ih =>
    refine (addresses_observe session knows timeout).bind fun status told => ?_
    split
    · -- A final status is what was told last.
      exact .pure told
    · refine Run.Addresses.get.andThen fun dialogue => ?_
      -- Otherwise the time is up, or the reads go on after a pause.
      split
      · exact (Run.Addresses.log _ _ _).andThen fun _ => .fail _
      · exact (Run.Addresses.sleep sleeper interval).andThen fun _ => ih

omit knows in
theorem addresses_issuedCertificate (requestId : String) {status : RequestStatus}
    (told : known status.certificateId) :
    (issuedCertificate requestId status).Addresses known known := by
  unfold issuedCertificate
  split
  · exact .fail _
  · exact (Run.Addresses.log _ _ _).andThen fun _ => .pure told

omit knows in
/-- What is issued in the end is known from the last of the replies. -/
theorem addresses_awaitIssuance (sleeper : Sleeper) (session : Option Session) (interval : Double)
    {requestId : Option String} (knows : ∀ filled, filled? requestId = some filled → known filled)
    (timeout : Double) : (awaitIssuance sleeper session interval requestId timeout).Addresses known
      fun found => ∀ certificateId, found = some certificateId → known certificateId := by
  -- Without a request there is no wait, and with one the wait goes by it all along.
  unfold awaitIssuance
  split
  · exact .pure nofun
  · next filled given =>
    refine Run.Addresses.andThen ?_ fun session => Run.Addresses.get.andThen fun dialogue => ?_
    · cases session with
      | none => exact .throw _
      | some found => exact .pure trivial
    · refine (addresses_readUntilFinal session (knows filled given) sleeper timeout interval _ _).bind
        fun status told => ?_
      refine (addresses_issuedCertificate filled told).bind fun certificateId issued => .pure ?_
      rintro _ ⟨⟩
      exact issued

end Polling

namespace FingerprintMatch

/-- A match takes its ids, where it has them, from records that were found. -/
theorem exists_mem_of_ofSummaries {fingerprint : String} {summaries : List CertificateSummary}
    {found : FingerprintMatch} (resolved : ofSummaries fingerprint summaries = .ok found) :
    (found.requestId ≠ "" → ∃ summary ∈ summaries, summary.requestId = found.requestId) ∧
      ∀ certificateId, found.certificateId = some certificateId →
        ∃ summary ∈ summaries, summary.id = certificateId := by
  have judged := judged_ofSummaries fingerprint summaries
  rw [resolved] at judged
  -- There is a match of a certificate alone, and one of a request.
  cases judged with
  | certificate requests certificates =>
    refine ⟨fun filled => absurd rfl filled, fun certificateId told => ?_⟩
    rw [← certificates] at told
    exact (certificateId?_eq_some.mp told).exists_mem
  | request requests =>
    exact ⟨fun _ => (requestIds_eq_singleton.mp requests).2.1,
      fun _ told => (certificateId?_eq_some.mp told).exists_mem⟩

end FingerprintMatch

namespace Resolution

variable {known : String → Prop} (session : Session)

/-- What a fingerprint resolves to is known from the records that were found. -/
theorem addresses_resolveFingerprint (thumbprint : String) :
    (resolveFingerprint session thumbprint).Addresses known fun found =>
      (found.requestId ≠ "" → known found.requestId) ∧
        ∀ certificateId, found.certificateId = some certificateId → known certificateId := by
  refine (Client.addresses_search session _).bind fun result told => ?_
  -- That the match is logged makes no difference to what it is.
  refine Run.Addresses.andThen ?_ fun _ => .ofOutcome fun found resolved => ?_
  · unfold logMatch
    split
    · exact .log _ _ _
    · exact .log _ _ _
    · exact .pure trivial
  · obtain ⟨request, certificate⟩ := FingerprintMatch.exists_mem_of_ofSummaries resolved
    constructor
    · intro filled
      obtain ⟨record, member, same⟩ := request filled
      exact same ▸ (told record member).2
    · intro certificateId given
      obtain ⟨record, member, rfl⟩ := certificate certificateId given
      exact (told record member).1

/-- A renewal of a request names it as its certificate. -/
theorem certificateDn_of_target {renewal : RenewalRequest} {requestId : String}
    (target : renewal.target = .ok (.request requestId)) :
    renewal.certificateDn = some requestId := by
  unfold RenewalRequest.target at target
  split at target <;> cases target
  next given => exact (filled?_eq_some.mp given).1

/-- The target of a renewal is known: it is named, or a fingerprint resolves to it. -/
theorem addresses_renewalTarget {renewal : RenewalRequest}
    (knows : ∀ requestId, renewal.target = .ok (.request requestId) → known requestId) :
    (renewalTarget (some session) renewal).Addresses known known := by
  refine .ofOutcome_bind fun target same => ?_
  -- A request that is named is the target itself, and only a fingerprint is searched for.
  split
  · exact .pure (knows _ same)
  · refine Run.Addresses.andThen (.pure trivial) fun session => ?_
    refine (addresses_resolveFingerprint session _).bind fun found told => ?_
    split
    · exact .fail _
    · next filled => exact .pure (told.1 fun empty => filled (String.isEmpty_iff.mpr empty))

theorem addresses_verifyLineage {certificateId : String} (knows : known certificateId)
    (requestId : String) (fingerprint : Option String) :
    (verifyLineage session certificateId requestId fingerprint).Addresses known fun _ => True := by
  refine (Client.addresses_certificate session knows).andThen fun certificate => ?_
  -- The record that is read is compared with what was asked for, and nothing is looked up by it.
  split
  · exact .pure trivial
  · exact .fail _

end Resolution

namespace Manager

variable {known : String → Prop} (manager : Manager)

theorem addresses_authenticate (apiKey : Option String) :
    (authenticate apiKey).Addresses known fun _ => True := by
  unfold authenticate
  split
  · exact .fail _
  · refine (Client.addresses_account _).andThen fun account => ?_
    split
    · exact .fail _
    · exact (Run.Addresses.log _ _ _).andThen fun _ => .pure trivial

theorem addresses_readZone (session : Option Session) {given : Option String}
    (knows : ∀ zone, manager.zoneFor given = .ok zone →
      known zone.application ∧ known zone.templateAlias) :
    (manager.readZone session given).Addresses known fun _ => True := by
  refine .ofOutcome_bind fun session _ => .ofOutcome_bind fun zone named => ?_
  -- A zone without a template is refused before anything is asked for.
  split
  · exact .fail _
  · exact Client.addresses_issuingTemplate session (knows zone named).1 (knows zone named).2

theorem addresses_assemble (body : Bytes) (option : ChainOption) :
    (Chain.assemble body option).Addresses known fun _ => True := by
  unfold Chain.assemble
  split
  · exact .fail _
  · exact (Run.Addresses.log _ _ _).andThen fun _ => .pure trivial

theorem addresses_fetchCertificate (session : Session) {certificateId : String}
    (knows : known certificateId) :
    (fetchCertificate session certificateId).Addresses known fun _ => True := by
  -- Behind its one call, the response is read and no more.
  refine (Client.addresses_contents session knows none).andThen fun response => ?_
  split
  · exact addresses_assemble response.body .ignore
  · exact .fail _

theorem addresses_fetchChain (session : Session) (request : CertificateRequest) (pickupId : String)
    {certificateId : String} (knows : known certificateId) :
    (fetchChain session request pickupId certificateId).Addresses known fun _ => True := by
  refine (Client.addresses_contents session knows _).andThen fun response => ?_
  -- The checks of the leaf call nobody, whatever they come to.
  split
  · exact (Run.Addresses.log _ _ _).andThen fun _ => .fail _
  · split
    · exact .fail _
    · refine (addresses_assemble response.body _).andThen fun collection => ?_
      exact .ofOutcome_bind fun _ _ =>
        (Run.Addresses.log _ _ _).andThen fun _ => .pure trivial

/-- What is fetched for a submitted request is what came out of the wait for it. -/
theorem addresses_retrieveSubmitted (session : Session) (request : CertificateRequest)
    {pickupId : String} (knows : known pickupId) :
    (manager.retrieveSubmitted session request pickupId).Addresses known fun _ => True := by
  -- The certificate that is fetched is the one that the wait was told of.
  refine (Polling.addresses_awaitIssuance _ _ _ (fun filled given => ?_) _).bind fun waited told => ?_
  · obtain ⟨⟨⟩, _⟩ := filled?_eq_some.mp given
    exact knows
  · split
    · exact .fail _
    · exact addresses_fetchChain session request pickupId (told _ rfl)

/-- A retrieval goes by what its request names first, or by what its thumbprint resolves to. -/
theorem addresses_retrieveCertificate (session : Option Session) {request : CertificateRequest}
    (knows : ∀ certificateId, filled? request.certificateId = some certificateId →
      known certificateId)
    (knowsToo : ∀ pickupId, filled? request.pickupId = some pickupId → known pickupId) :
    (manager.retrieveCertificate session request).Addresses known fun _ => True := by
  refine .ofOutcome_bind fun session _ => ?_
  -- The id of a certificate comes first, then that of a request, and a thumbprint last.
  split
  · next given => exact addresses_fetchCertificate session (knows _ given)
  · next given =>
    exact addresses_retrieveSubmitted manager session request (knowsToo _ given)
  · refine (Resolution.addresses_resolveFingerprint session _).bind fun found told => ?_
    -- The request comes first, and only without one is the certificate fetched at once.
    split
    · next pickupId filled =>
      obtain ⟨⟨⟩, filled⟩ := filled?_eq_some.mp filled
      exact (Run.Addresses.recordPickup _).andThen fun _ =>
        addresses_retrieveSubmitted manager session _ (told.1 filled)
    · next certificateId _ given => exact addresses_fetchCertificate session (told.2 _ given)
    · exact .fail _
  · exact .fail _

theorem addresses_submitRecorded (session : Session) (submission : Submission) (event : String)
    (fields : String → Members) :
    (submitRecorded session submission event fields).Addresses known fun _ => True := by
  refine (Client.addresses_submit session submission).andThen fun receipt => ?_
  refine (Run.Addresses.recordPickup _).andThen fun _ => ?_
  exact (Run.Addresses.log _ _ _).andThen fun _ => .pure trivial

theorem addresses_requestCertificate (session : Option Session) {request : CertificateRequest}
    (knows : ∀ zone, manager.zoneFor request.zone = .ok zone → known zone.application) :
    (manager.requestCertificate session request).Addresses known fun _ => True := by
  -- Only the application is looked up by an identifier; a submission has a path of its own.
  rw [requestCertificate_eq]
  refine Run.Addresses.andThen ?_ fun prepared => addresses_submitRecorded _ _ _ _
  unfold prepareRequest
  split
  · exact .fail _
  · refine .ofOutcome_bind fun session _ => ?_
    split
    · exact .fail _
    · refine .ofOutcome_bind fun zone named => ?_
      refine Run.Addresses.andThen ?_ fun _ =>
        (Run.Addresses.ofPlatform _).andThen fun _ => .pure trivial
      refine (Client.addresses_application session (knows zone named)).andThen fun application => ?_
      exact .ofOutcome_bind fun _ _ => .pure trivial

/-- A renewal goes by its target, and then by the certificate that the status of that tells of. -/
theorem addresses_renewCertificate (session : Option Session) {renewal : RenewalRequest}
    (knows : ∀ requestId, renewal.target = .ok (.request requestId) → known requestId) :
    (renewCertificate session renewal).Addresses known fun _ => True := by
  rw [renewCertificate_eq]
  refine Run.Addresses.andThen ?_ fun cleared => ?_
  · refine .ofOutcome_bind fun session _ => ?_
    split
    · refine (Resolution.addresses_renewalTarget session knows).bind fun target named => ?_
      refine (Client.addresses_status session named).bind fun previous told => ?_
      split
      · exact .fail _
      · exact (Resolution.addresses_verifyLineage session told _ _).andThen fun _ => .pure trivial
    · exact .fail _
  · -- What the request before told of goes into a submission, and not into its path.
    rw [submitRenewal_eq]
    exact addresses_submitRecorded _ _ _ _

theorem addresses_upload (session : Session) (wanted : Upload) :
    (upload session wanted).Addresses known fun _ => True :=
  .of_call (fun dialogue => by rw [hold_upload]) (.inl (.tail _ (.tail _ (.head _))))
    fun _ _ _ _ => trivial

theorem addresses_importCertificate (session : Option Session) {request : ImportRequest}
    (knows : ∀ zone, manager.zoneFor request.zone = .ok zone → known zone.application) :
    (manager.importCertificate session request).Addresses known fun _ => True := by
  refine .ofOutcome_bind fun session _ => ?_
  split
  · exact .fail _
  · refine Run.Addresses.andThen ?_ fun applicationId => ?_
    · -- The application is looked up by name only where its id is not given.
      unfold applicationFor
      split
      · exact .pure trivial
      · refine .ofOutcome_bind fun zone named => ?_
        exact (Client.addresses_application session (knows zone named)).andThen
          fun _ => .pure trivial
    · -- Upload and search have paths of their own, whatever they carry.
      refine (addresses_upload session _).andThen fun response => ?_
      refine .ofOutcome_bind fun _ _ => (Run.Addresses.sleep _ _).andThen fun _ => ?_
      refine (Client.addresses_search session _).bind fun found _ => ?_
      split
      · exact (Run.Addresses.log _ _ _).andThen fun _ => .pure trivial
      · exact .fail _

theorem addresses_listingFrom (session : Session) (expression : Expression)
    (pages limit page : Nat) :
    (listingFrom session expression pages limit page).Addresses known fun _ => True := by
  -- The induction is on the pages allowed for; each of them is a search.
  induction pages generalizing limit page with
  | zero => exact .pure trivial
  | succ pages ih =>
    by_cases left : limit = 0
    · unfold listingFrom
      rw [if_pos left]
      exact .pure trivial
    · rw [listingFrom_succ left]
      refine (Client.addresses_search session _).bind fun result _ => ?_
      simp only [listingAfter]
      split
      · exact .pure trivial
      · exact (ih _ _).andThen fun _ => .pure trivial

theorem addresses_listCertificates (now : Moment) (session : Option Session)
    (filter : Option CertificateFilter) {given : Option String}
    (knows : ∀ zone, manager.zoneFor given = .ok zone → known zone.application) :
    (manager.listCertificates now session filter given).Addresses known fun _ => True := by
  refine .ofOutcome_bind fun session _ => .ofOutcome_bind fun zone named => ?_
  refine (Client.addresses_application session (knows zone named)).andThen fun application => ?_
  -- The id of the application goes into the expression of the searches, and into no path.
  exact (addresses_listingFrom session _ _ _ _).andThen fun _ =>
    (Run.Addresses.log _ _ _).andThen fun _ => .pure trivial

end Manager

/-- An identifier that is supplied to an operation at a desk. -/
inductive Operation.Supplies (desk : Desk) : Operation → String → Prop where
  /-- The application of the zone that a request is for. -/
  | requestZone {name : String} {zone : Zone}
      (named : desk.manager.zoneFor ((desk.ledger.request? name).getD {}).zone = .ok zone) :
      Supplies desk (.request name) zone.application
  | importZone {wanted : ImportRequest} {zone : Zone}
      (named : desk.manager.zoneFor wanted.zone = .ok zone) :
      Supplies desk (.importCertificate wanted) zone.application
  | listZone {filter : Option CertificateFilter} {given : Option String} {zone : Zone}
      (named : desk.manager.zoneFor given = .ok zone) :
      Supplies desk (.list filter given) zone.application
  | readZone {given : Option String} {zone : Zone}
      (named : desk.manager.zoneFor given = .ok zone) :
      Supplies desk (.readZone given) zone.application
  | templateAlias {given : Option String} {zone : Zone}
      (named : desk.manager.zoneFor given = .ok zone) :
      Supplies desk (.readZone given) zone.templateAlias
  | certificate {name certificateId : String}
      (named : ((desk.ledger.request? name).getD {}).certificateId = some certificateId) :
      Supplies desk (.retrieve name) certificateId
  | pickup {name pickupId : String}
      (named : ((desk.ledger.request? name).getD {}).pickupId = some pickupId) :
      Supplies desk (.retrieve name) pickupId
  | renewed {renewal : RenewalRequest} {name : Option String} {requestId : String}
      (named : renewal.certificateDn = some requestId) :
      Supplies desk (.renew renewal name) requestId
  | awaited {requestId : String} {timeout : Double} :
      Supplies desk (.await (some requestId) timeout) requestId

/-- An operation goes to endpoints by what is supplied to it, and by what it is told. -/
theorem Operation.addresses_run {known : String → Prop} (desk : Desk) (operation : Operation)
    (knows : ∀ identifier, operation.Supplies desk identifier → known identifier) :
    (operation.run desk).Addresses known fun _ => True := by
  -- For each operation, what it goes by first is what is supplied to it.
  cases operation with
  | authenticate apiKey =>
    -- An API key goes into a header, and is nothing that a call could go by.
    exact .map _ (Manager.addresses_authenticate apiKey)
  | readZone given =>
    exact .map _ (Manager.addresses_readZone desk.manager desk.session fun zone named =>
      ⟨knows _ (.readZone named), knows _ (.templateAlias named)⟩)
  | request name =>
    exact .map _ (Manager.addresses_requestCertificate desk.manager desk.session fun zone named =>
      knows _ (.requestZone named))
  | retrieve name =>
    exact .map _ (Manager.addresses_retrieveCertificate desk.manager desk.session
      (fun _ given => knows _ (.certificate (filled?_eq_some.mp given).1))
      fun _ given => knows _ (.pickup (filled?_eq_some.mp given).1))
  | renew renewal name =>
    exact .map _ (Manager.addresses_renewCertificate desk.session fun requestId target =>
      knows _ (.renewed (Resolution.certificateDn_of_target target)))
  | importCertificate wanted =>
    exact .map _ (Manager.addresses_importCertificate desk.manager desk.session fun zone named =>
      knows _ (.importZone named))
  | list filter given =>
    exact .map _ (Manager.addresses_listCertificates desk.manager desk.now desk.session filter
      fun zone named => knows _ (.listZone named))
  | await requestId timeout =>
    refine .map _ (Polling.addresses_awaitIssuance _ desk.session _ (fun filled given => ?_) timeout)
    obtain ⟨rfl, _⟩ := filled?_eq_some.mp given
    exact knows _ .awaited

/-- The paths without a place for an identifier are asked for as they are. -/
theorem Endpoint.resolved_of_mem_fixed {path : String} (member : path ∈ fixed) :
    resolved path = path :=
  (by decide : ∀ path ∈ fixed, resolved path = path) path member

namespace Call

variable {known : String → Prop} {call : Call}

/-- A call by identifiers none of which is a dot reaches its own path. -/
theorem Addresses.resolved_eq_self (addresses : call.Addresses known)
    (plain : ∀ identifier, known identifier → ¬ Endpoint.IsDot identifier) :
    Endpoint.resolved call.path = call.path := by
  rcases addresses with fixed | ⟨lookup, path, all⟩
  · exact Endpoint.resolved_of_mem_fixed fixed
  · rw [path, lookup.resolved_path_iff]
    exact fun identifier member => plain identifier (all identifier member)

/-- Whether a call reaches its own path is up to the identifiers of the lookup that has it. -/
theorem Addresses.resolved_eq_self_iff (addresses : call.Addresses known) :
    Endpoint.resolved call.path = call.path ↔ ∀ lookup : Lookup, call.path = lookup.path →
      ∀ identifier ∈ lookup.identifiers, ¬ Endpoint.IsDot identifier := by
  constructor
  · intro same lookup path
    rw [path] at same
    exact lookup.resolved_path_iff.mp same
  · intro plain
    -- The lookup that the call is known to make is one with its path.
    rcases addresses with fixed | ⟨lookup, path, _⟩
    · exact Endpoint.resolved_of_mem_fixed fixed
    · rw [path]
      exact lookup.resolved_path_iff.mpr (plain lookup path)

end Call

/--
Every call goes to an endpoint, by identifiers that were supplied or that a reply told.

It reaches its own path exactly if none of the segments is a dot, which is up to the identifiers.
-/
theorem Desk.perform_addresses (desk : Desk) (operation : Operation) (arrivals : List Arrival) :
    let sent := (desk.perform operation arrivals).2.1.sent
    let known := fun identifier => operation.Supplies desk identifier ∨
      ∃ arrival ∈ arrivals, arrival.reply.Identifies identifier
    (∀ call ∈ sent, call.Addresses known ∧
      (Endpoint.resolved call.path = call.path ↔
        ∀ segment ∈ Endpoint.segments call.path, ¬ Endpoint.IsDot segment) ∧
      (Endpoint.resolved call.path = call.path ↔
        ∀ lookup : Lookup, call.path = lookup.path →
          ∀ identifier ∈ lookup.identifiers, ¬ Endpoint.IsDot identifier)) ∧
    ((∀ identifier, known identifier → ¬ Endpoint.IsDot identifier) →
      ∀ call ∈ sent, Endpoint.resolved call.path = call.path) := by
  intro sent known
  -- The replies tell nothing but what is known by definition.
  have tells : ({ arrivals } : Dialogue).TellsKnown known :=
    fun arrival member identifier told => .inr ⟨arrival, member, told⟩
  obtain ⟨_, ⟨calls, start, addressed⟩, _⟩ :=
    (operation.addresses_run desk fun identifier => .inl).addressed tells
  have all : ∀ call ∈ sent, call.Addresses known := by
    have same : sent = calls := start.trans (List.nil_append calls)
    rw [same]
    exact addressed
  constructor
  · -- What a path leads to is told from its segments, and for a lookup from its identifiers.
    intro call member
    have addresses := all call member
    exact ⟨addresses, Endpoint.resolved_eq_self_iff, addresses.resolved_eq_self_iff⟩
  · intro plain call member
    exact (all call member).resolved_eq_self plain

/-- A certificate whose id is two dots is fetched from a path that leads out of the certificates. -/
theorem Desk.perform_addresses_elsewhere :
    let session : Session := ⟨"key", { company := some ⟨"co-1", "Example"⟩ }⟩
    let manager : Manager := ⟨none, .ofInt 2, .ofInt 1, "host", .system⟩
    let desk : Desk := ⟨manager, ⟨2026, 1, 15, 12, 30, 45, 0, some 0⟩, some session,
      [("r", { certificateId := some ".." })]⟩
    let sent := (desk.perform (.retrieve "r") [⟨.zero, .response ⟨404, "", []⟩⟩]).2.1.sent
    sent = [.single session ".."] ∧
      (Call.single session "..").path = "outagedetection/v1/certificates/../contents" ∧
      Endpoint.resolved (Call.single session "..").path = "outagedetection/v1/contents" ∧
      Endpoint.resolved (Call.single session "..").path ≠ (Call.single session "..").path := by
  intro session manager desk sent
  have only : sent = [.single session ".."] := rfl
  have member : Call.single session ".." ∈ sent := only ▸ List.mem_cons_self
  obtain ⟨calls, _⟩ := desk.perform_addresses (.retrieve "r") [⟨.zero, .response ⟨404, "", []⟩⟩]
  obtain ⟨_, _, reaches⟩ := calls (.single session "..") member
  refine ⟨only, by decide, by decide, fun same => ?_⟩
  -- The path is that of the lookup by the two dots.
  exact reaches.mp same (.contents "..") rfl ".." List.mem_cons_self (.inr rfl)

end Issuance
