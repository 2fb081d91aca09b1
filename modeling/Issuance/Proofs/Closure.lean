import Issuance.Proofs.Delivery
import Issuance.Proofs.Grounds
import Issuance.Proofs.Request

/-! How every operation ends: with a result, with a failure on known grounds, or with what the platform refuses. -/

namespace Issuance

theorem Dialogue.Answered.length_le {arrivals : List Arrival} {dialogue : Dialogue}
    (answered : dialogue.Answered arrivals) : dialogue.sent.length ≤ arrivals.length := by
  -- The last of the calls has a reply at its position.
  rcases Nat.eq_zero_or_pos dialogue.sent.length with none | some
  · omega
  · obtain ⟨arrival, _, place, _⟩ := answered.answered (dialogue.sent.length - 1) (by omega)
    obtain ⟨early, _⟩ := List.getElem?_eq_some_iff.mp place
    simp only at early
    omega

namespace Polling

variable {arrivals : List Arrival} {own : List Call → Stop → Prop} {sent : List Call}
  (session : Session) (requestId : String)

/-- The status of a request is what the last call was told. -/
def StatusTold (arrivals : List Arrival) (session : Session) (requestId : String)
    (status : RequestStatus) (sent : List Call) : Prop :=
  ∃ response, Told arrivals sent (.status session requestId) response ∧ response.status = 200 ∧
    readBody RequestStatus.check response.body = .valid status

/-- A look at the status is one call, and what it passes on has not failed. -/
theorem closes_observe (timeout : Double) :
    (observe session requestId timeout).Closes arrivals (Founded arrivals own) sent
      fun status later => later = sent ++ [.status session requestId] ∧ status.state ≠ .failed ∧
        StatusTold arrivals session requestId status later := by
  refine (Client.closes_status session requestId).bind fun status later told => ?_
  split
  · exact .log_bind (.fail (.of_isPlain rfl))
  · next going =>
    split
    · exact .fail (.of_isPlain rfl)
    · exact .pure ⟨told.1, going, told.2⟩

/-- The sleep between two reads is refused, behind a read that has told of a status in flight. -/
inductive Unslept (sleeper : Sleeper) (interval : Double) (arrivals : List Arrival)
    (sent : List Call) : Stop → Prop
  | refused {session : Session} {requestId : String} {status : RequestStatus} {lapse : Lapse}
      (told : StatusTold arrivals session requestId status sent)
      (flying : status.state.inFlight = true) (refusal : sleeper interval = some lapse) :
      Unslept sleeper interval arrivals sent (.lapsed lapse)

/-- With enough reads for the replies that are left, the reads end with a status that is issued. -/
theorem closes_readUntilFinal {sleeper : Sleeper} {interval : Double}
    (unslept : ∀ later stop, Unslept sleeper interval arrivals later stop → own later stop)
    (timeout start : Double) (reads : Nat) (enough : arrivals.length < sent.length + reads) :
    (readUntilFinal sleeper session requestId timeout interval start reads).Closes arrivals
      (Founded arrivals own) sent fun status later => status.state = .issued ∧
        StatusTold arrivals session requestId status later := by
  -- The induction is on the reads that are left; each takes a reply, so that they do not run out.
  induction reads generalizing sent with
  | zero =>
    constructor
    rintro dialogue rfl answered
    have := answered.length_le
    omega
  | succ reads ih =>
    refine (closes_observe session requestId timeout).bind fun status later observed => ?_
    obtain ⟨rfl, going, told⟩ := observed
    split
    · next final =>
      refine .pure ⟨?_, told⟩
      -- What is neither in flight nor failed is issued.
      cases state : status.state <;> simp_all [IssuanceState.inFlight]
    · next unfinished =>
      have flying : status.state.inFlight = true := by simpa using unfinished
      refine Run.Closes.get.bind fun dialogue later same => ?_
      obtain ⟨rfl, _⟩ := same
      split
      · exact .log_bind (.fail (.of_isPlain rfl))
      · refine (Run.Closes.sleep fun lapse refusal =>
          .own (unslept _ _ (.refused told flying refusal))).bind fun _ later same => ?_
        rw [same]
        exact ih (by rw [List.length_append, List.length_singleton]; omega)

/-- What is issued counts by its certificate, and without one it is not read as issued. -/
theorem closes_issuedCertificate {status : RequestStatus} (issued : status.state = .issued)
    (told : StatusTold arrivals session requestId status sent) :
    (issuedCertificate requestId status).Closes arrivals (Founded arrivals own) sent
      fun _ _ => True := by
  unfold issuedCertificate
  split
  · next empty =>
    obtain ⟨response, told, success, read⟩ := told
    exact .fail (.unread (.issued told success read issued (String.isEmpty_iff.mp empty)))
  · exact .log_bind (.pure trivial)

/-- A wait in a session gives a certificate, if it is for a request. -/
theorem closes_awaitIssuance {sleeper : Sleeper} {interval : Double}
    (unslept : ∀ later stop, Unslept sleeper interval arrivals later stop → own later stop)
    (requestId : Option String) (timeout : Double) :
    (awaitIssuance sleeper (some session) interval requestId timeout).Closes arrivals
      (Founded arrivals own) sent fun found _ => filled? requestId ≠ none → found ≠ none := by
  unfold awaitIssuance
  cases filled? requestId with
  | none => exact .pure fun filled => absurd rfl filled
  | some requestId =>
    refine Run.Closes.present_bind (Run.Closes.get.bind fun dialogue later known => ?_)
    obtain ⟨rfl, same, answered⟩ := known
    -- The reads are one more than the replies that are left by now.
    have enough : arrivals.length < later.length + (dialogue.arrivals.length + 1) := by
      rw [answered.left, List.length_drop, same]
      omega
    refine (closes_readUntilFinal session requestId unslept timeout _ _ enough).bind
      fun status later known => ?_
    refine (closes_issuedCertificate session requestId known.1 known.2).bind fun _ _ _ => ?_
    exact .pure fun _ => nofun

end Polling

namespace Resolution

variable {arrivals : List Arrival} {own : List Call → Stop → Prop} {sent : List Call}
  (session : Session)

/-- A fingerprint that is resolved tells of a request or of a certificate. -/
theorem closes_resolveFingerprint (thumbprint : String) :
    (resolveFingerprint session thumbprint).Closes arrivals (Founded arrivals own) sent
      fun found _ => filled? (some found.requestId) = none → found.certificateId ≠ none := by
  refine (Client.closes_search session (shallow_fingerprintSearch _)).andThen
    fun result later => ?_
  refine Run.Closes.andThen (.of_silent fun dialogue => ?_) fun _ later => ?_
  · obtain ⟨log, logged⟩ := hold_logMatch (Fingerprint.normalize thumbprint)
      (FingerprintMatch.ofSummaries (Fingerprint.normalize thumbprint) result.certificates) dialogue
    exact ⟨(), by rw [logged], by rw [logged], by rw [logged], trivial⟩
  · refine .ofOutcome (fun found judged => ?_) fun failure judged => ?_
    · exact FingerprintMatch.certificateId_of_ofSummaries judged
    · have judgement := FingerprintMatch.judged_ofSummaries (Fingerprint.normalize thumbprint)
        result.certificates
      rw [judged] at judgement
      cases judgement <;> exact .of_isPlain rfl

theorem closes_renewalTarget (renewal : RenewalRequest) :
    (renewalTarget (some session) renewal).Closes arrivals (Founded arrivals own) sent
      fun _ _ => True := by
  refine .ofOutcome_bind (fun target _ => ?_) fun failure refused => ?_
  · split
    · exact .pure trivial
    · refine Run.Closes.present_bind ((closes_resolveFingerprint session _).bind fun found later _ => ?_)
      split
      · exact .fail (.of_isPlain rfl)
      · exact .pure trivial
  · unfold RenewalRequest.target at refused
    split at refused <;> cases refused <;> exact .of_isPlain rfl

theorem closes_verifyLineage (certificateId requestId : String) (fingerprint : Option String) :
    (verifyLineage session certificateId requestId fingerprint).Closes arrivals
      (Founded arrivals own) sent fun _ _ => True := by
  refine (Client.closes_certificate session certificateId).andThen fun certificate later => ?_
  split
  · exact .pure trivial
  · exact .fail (.of_isPlain rfl)

end Resolution

namespace Manager

variable {arrivals : List Arrival} {own : List Call → Stop → Prop} {sent : List Call}
  (manager : Manager)

/-- An operation that needs a session with a company fails for that alone, or goes on in it. -/
theorem closes_authenticated {α : Type} {session : Option Session} {action : String}
    {next : Session → Run α} {post : α → List Call → Prop}
    (second : ∀ account, (next account).Closes arrivals (Founded arrivals own) sent post) :
    (Run.ofOutcome (authenticated session action) >>= next).Closes arrivals (Founded arrivals own)
      sent post := by
  refine .ofOutcome_bind (fun account _ => second account) fun failure refused => ?_
  unfold authenticated at refused
  split at refused
  · split at refused <;> cases refused
    exact .of_isPlain rfl
  · cases refused
    exact .of_isPlain rfl

/-- What names no zone is refused, and otherwise it is gone on with. -/
theorem closes_zoneFor {α : Type} {given : Option String} {next : Zone → Run α}
    {post : α → List Call → Prop}
    (second : ∀ zone, (next zone).Closes arrivals (Founded arrivals own) sent post) :
    (Run.ofOutcome (manager.zoneFor given) >>= next).Closes arrivals (Founded arrivals own)
      sent post := by
  refine .ofOutcome_bind (fun zone _ => second zone) fun failure refused => ?_
  unfold zoneFor at refused
  split at refused
  · cases refused
    exact .of_isPlain rfl
  · split at refused <;> cases refused
    exact .of_isPlain rfl

theorem closes_authenticate (apiKey : Option String) :
    (authenticate apiKey).Closes arrivals (Founded arrivals own) sent fun _ _ => True := by
  unfold authenticate
  split
  · exact .fail (.of_isPlain rfl)
  · refine (Client.closes_account _).andThen fun account later => ?_
    split
    · exact .fail (.of_isPlain rfl)
    · exact .log_bind (.pure trivial)

theorem closes_readZone (session : Option Session) (zone : Option String) :
    (manager.readZone session zone).Closes arrivals (Founded arrivals own) sent
      fun _ _ => True := by
  refine closes_authenticated fun account => closes_zoneFor manager fun zone => ?_
  split
  · exact .fail (.of_isPlain rfl)
  · exact Client.closes_issuingTemplate account _ _

theorem closes_submitRecorded (session : Session) (submission : Submission) (event : String)
    (fields : String → Members) :
    (submitRecorded session submission event fields).Closes arrivals (Founded arrivals own) sent
      fun _ _ => True := by
  refine (Client.closes_submit session submission).andThen fun receipt later => ?_
  exact (Run.Closes.recordPickup _).bind fun _ _ _ => .log_bind (.pure trivial)

/-- The hours that a certificate is wanted for are more than can be written. -/
inductive Unwritable (request : CertificateRequest) : Stop → Prop
  | hours (positive : 0 < request.validityHours)
      (tooLong : 4300 < (Nat.toDigits 10 request.validityHours.natAbs).length) :
      Unwritable request (.lapsed .value)

/-- Hours that make no validity cannot be written. -/
theorem unwritable_of_validityPeriod {request : CertificateRequest} {lapse : Lapse}
    (refused : validityPeriod request.validityHours = .error lapse) :
    Unwritable request (.lapsed lapse) := by
  by_cases writable : 0 < request.validityHours ∧ Platform.isTooLong request.validityHours = true
  · rw [validityPeriod_of_tooLong writable.1 writable.2] at refused
    cases refused
    exact .hours writable.1 (Platform.isTooLong_iff.mp writable.2)
  · -- What is not asked for, or is not too long, makes a validity.
    have accepted : ∃ validity, validityPeriod request.validityHours = .ok validity := by
      by_cases positive : 0 < request.validityHours
      · exact ⟨_, validityPeriod_eq_ok.mpr (.inr ⟨positive,
          Bool.eq_false_iff.mpr fun tooLong => writable ⟨positive, tooLong⟩, rfl⟩)⟩
      · exact ⟨_, validityPeriod_eq_ok.mpr (.inl ⟨Int.not_lt.mp positive, rfl⟩)⟩
    obtain ⟨validity, written⟩ := accepted
    rw [written] at refused
    cases refused

theorem closes_requestCertificate (session : Option Session) (request : CertificateRequest) :
    (manager.requestCertificate session request).Closes arrivals
      (Founded arrivals fun _ => Unwritable request) sent fun _ _ => True := by
  rw [requestCertificate_eq]
  refine Run.Closes.andThen ?_ fun prepared later =>
    closes_submitRecorded _ _ _ _
  unfold prepareRequest
  split
  · exact .fail (.of_isPlain rfl)
  · refine closes_authenticated fun account => ?_
    split
    · exact .fail (.of_isPlain rfl)
    · refine closes_zoneFor manager fun zone => ?_
      refine Run.Closes.andThen ?_ fun _ _ => .ofPlatform_bind (fun _ _ => .pure trivial)
        fun lapse refused => .own (unwritable_of_validityPeriod refused)
      refine (Client.closes_application account _).andThen fun application later => ?_
      refine .ofOutcome_bind (fun _ _ => .pure trivial) fun failure missing => ?_
      -- An alias that the application does not have is the one thing that can go wrong.
      unfold templateOf at missing
      split at missing
      · cases missing
      · split at missing <;> cases missing
        exact .of_isPlain rfl

theorem closes_renewCertificate (session : Option Session) (renewal : RenewalRequest) :
    (renewCertificate session renewal).Closes arrivals (Founded arrivals own) sent
      fun _ _ => True := by
  rw [renewCertificate_eq]
  refine Run.Closes.andThen ?_ fun cleared later => ?_
  · refine closes_authenticated fun account => ?_
    split
    · refine (Resolution.closes_renewalTarget account renewal).andThen fun target later => ?_
      unfold clearTarget
      refine (Client.closes_status account target).bind fun previous later _ => ?_
      split
      · exact .fail (.of_isPlain rfl)
      · exact (Resolution.closes_verifyLineage account _ _ _).andThen fun _ _ => .pure trivial
    · exact .fail (.of_isPlain rfl)
  · rw [submitRenewal_eq]
    exact closes_submitRecorded _ _ _ _

theorem closes_listingFrom (session : Session) {expression : Expression}
    (shallow : expression.Shallow) (pages limit page : Nat) :
    (listingFrom session expression pages limit page).Closes arrivals (Founded arrivals own) sent
      fun _ _ => True := by
  -- The induction is on the pages allowed for, from any page on and with any limit left.
  induction pages generalizing limit page sent with
  | zero => exact .pure trivial
  | succ pages ih =>
    by_cases left : limit = 0
    · unfold listingFrom
      rw [if_pos left]
      exact .pure trivial
    · rw [listingFrom_succ left]
      refine (Client.closes_search session shallow).andThen fun result later => ?_
      simp only [listingAfter]
      split
      · exact .pure trivial
      · exact (ih _ _).andThen fun _ _ => .pure trivial

theorem closes_listCertificates (now : Moment) (session : Option Session)
    (filter : Option CertificateFilter) (zone : Option String) :
    (manager.listCertificates now session filter zone).Closes arrivals (Founded arrivals own) sent
      fun _ _ => True := by
  refine closes_authenticated fun account => closes_zoneFor manager fun zone => ?_
  refine (Client.closes_application account _).andThen fun application later => ?_
  exact (closes_listingFrom account (shallow_listingExpression _ _ _) _ _ _).andThen
    fun _ _ => .log_bind (.pure trivial)

/-- What is fetched for a success makes a collection of the certificates in it, or is not read as one. -/
theorem closes_assemble {call : Call} {response : Response} (option : ChainOption)
    (fetches : call.Fetches) (told : Told arrivals sent call response)
    (success : response.status = 200) :
    (Chain.assemble response.body option).Closes arrivals (Founded arrivals own) sent
      fun collection later => later = sent ∧ PemCollection.ofText? response.body = some collection := by
  unfold Chain.assemble
  split
  · next unreadable => exact .fail (.unread (.chain told fetches success unreadable))
  · next read => exact .log_bind (.pure ⟨rfl, read⟩)

theorem closes_fetchCertificate (session : Session) (certificateId : String) :
    (fetchCertificate session certificateId).Closes arrivals (Founded arrivals own) sent
      fun _ _ => True := by
  refine (Client.closes_contents session certificateId none).bind fun response later fetched => ?_
  obtain ⟨call, fetches, told⟩ := fetched
  split
  · next success => exact (closes_assemble .ignore fetches told success).mono fun _ _ _ => trivial
  · exact .fail (.of_isPlain rfl)

/-- The keys of a signing request and of the certificate that was fetched for it cannot be compared. -/
inductive Incomparable (csr : Option String) (arrivals : List Arrival) (sent : List Call) :
    Failure → Prop
  /-- The signing request cannot be read, or its key cannot. -/
  | request {text : String} (holds : filled? csr = some text)
      (unread : ∀ signing, X509.SigningRequest.ofText? (Utf8.encode text) = some signing →
        signing.subjectKey.key? = none) :
      Incomparable csr arrivals sent
        (.decoding ⟨"Failed to parse certificate signing request", none⟩ [])
  /-- The key of the first certificate that was fetched cannot be read. -/
  | certificate {call : Call} {response : Response} {leaf : X509.Certificate}
      {others : List X509.Certificate} (told : Told arrivals sent call response)
      (fetches : call.Fetches)
      (read : X509.Certificate.allOfText? response.body = some (leaf :: others))
      (keyless : leaf.subjectKey.key? = none) :
      Incomparable csr arrivals sent
        (.decoding ⟨"Failed to parse certificate signing request", none⟩ [])

/-- What a retrieval stops for on account of its caller: keys to compare, or the interval of its reads. -/
inductive Irretrievable (manager : Manager) (csr : Option String) (arrivals : List Arrival)
    (sent : List Call) : Stop → Prop
  | keys {failure : Failure} (incomparable : Incomparable csr arrivals sent failure) :
      Irretrievable manager csr arrivals sent (.failed failure)
  | interval {stop : Stop}
      (unslept : Polling.Unslept manager.sleeper manager.pollInterval arrivals sent stop) :
      Irretrievable manager csr arrivals sent stop

/-- What stops a retrieval on account of its caller is not decoded, or the platform refuses it. -/
theorem Irretrievable.decoding_or_lapsed {manager : Manager} {csr : Option String} {stop : Stop}
    (given : manager.Irretrievable csr arrivals sent stop) :
    (∃ note faults, stop = .failed (.decoding note faults)) ∨ ∃ lapse, stop = .lapsed lapse := by
  cases given with
  | keys incomparable => cases incomparable <;> exact .inl ⟨_, _, rfl⟩
  | interval unslept =>
    cases unslept
    exact .inr ⟨_, rfl⟩

/-- A leaf is refused for its key, or because there are no two keys to compare. -/
theorem founded_of_verifyLeaf {request : CertificateRequest} {call : Call} {response : Response}
    {collection : PemCollection} {failure : Failure} (fetches : call.Fetches)
    (told : Told arrivals sent call response)
    (read : PemCollection.ofText? response.body = some collection)
    (refused : Chain.verifyLeaf request collection = .error failure) :
    Founded arrivals (Irretrievable manager request.csr arrivals) sent (.failed failure) := by
  obtain ⟨leaf, others, all, rfl⟩ := PemCollection.ofText?_eq_some.mp read
  have wellFormed := X509.Certificate.wellFormed_of_allOfText? all leaf List.mem_cons_self
  cases given : filled? request.csr with
  | none =>
    -- Without a signing request there is nothing to compare, and every leaf passes.
    have accepted : request.accepts? leaf.text = some true := by
      unfold CertificateRequest.accepts?
      rw [show request.csr.filter (!·.isEmpty) = none from given]
    unfold Chain.verifyLeaf at refused
    rw [accepted] at refused
    cases refused
  | some csr =>
    obtain ⟨holds, filled⟩ := filled?_eq_some.mp given
    by_cases signed : ∃ key, request.SignsFor csr key
    · obtain ⟨key, signs⟩ := signed
      rw [Chain.verifyLeaf_text signs wellFormed] at refused
      cases carried : leaf.subjectKey.key? with
      | none =>
        rw [carried] at refused
        cases refused
        exact .own (.keys (.certificate told fetches all carried))
      | some found =>
        simp only [carried] at refused
        split at refused <;> cases refused
        exact .of_isPlain rfl
    · rw [Chain.verifyLeaf_unsigned holds filled (not_exists.mp signed)] at refused
      cases refused
      refine .own (.keys (.request given fun signing read => ?_))
      cases keyed : signing.subjectKey.key? with
      | none => rfl
      | some key => exact absurd ⟨key, holds, filled, signing, read, keyed⟩ signed

theorem closes_fetchChain (session : Session) (request : CertificateRequest)
    (pickupId certificateId : String) :
    (fetchChain session request pickupId certificateId).Closes arrivals
      (Founded arrivals (Irretrievable manager request.csr arrivals)) sent fun _ _ => True := by
  refine (Client.closes_contents session certificateId _).bind fun response later fetched => ?_
  obtain ⟨call, fetches, told⟩ := fetched
  split
  · exact .log_bind (.fail (.of_isPlain rfl))
  · split
    · exact .fail (.of_isPlain rfl)
    · next success =>
      refine (closes_assemble request.chainOption fetches told (not_not.mp success)).bind
        fun collection later read => ?_
      obtain ⟨rfl, read⟩ := read
      refine .ofOutcome_bind (fun _ _ => .log_bind (.pure trivial)) fun failure refused => ?_
      exact founded_of_verifyLeaf manager fetches told read refused

theorem closes_retrieveSubmitted (session : Session) (request : CertificateRequest)
    {pickupId : String} (filled : filled? (some pickupId) ≠ none) :
    (manager.retrieveSubmitted session request pickupId).Closes arrivals
      (Founded arrivals (Irretrievable manager request.csr arrivals)) sent fun _ _ => True := by
  refine (Polling.closes_awaitIssuance session (fun _ _ => .interval) _ _).bind
    fun waited later given => ?_
  -- A wait for a request gives a certificate, so that there is one to fetch.
  cases waited with
  | none => exact absurd rfl (given filled)
  | some certificateId => exact closes_fetchChain manager session request pickupId certificateId

theorem closes_retrieveCertificate (session : Option Session) (request : CertificateRequest) :
    (manager.retrieveCertificate session request).Closes arrivals
      (Founded arrivals (Irretrievable manager request.csr arrivals)) sent fun _ _ => True := by
  refine closes_authenticated fun account => ?_
  split
  · exact closes_fetchCertificate account _
  · next pickupId _ _ submitted =>
    have filled := filled?_eq_some.mp submitted
    exact closes_retrieveSubmitted manager account request
      (by rw [filled?_eq_some.mpr ⟨rfl, filled.2⟩]; exact nofun)
  · refine (Resolution.closes_resolveFingerprint account _).bind fun found later known => ?_
    split
    · next _ _ pickupId named =>
      refine (Run.Closes.recordPickup _).bind fun _ _ _ => ?_
      have filled := filled?_eq_some.mp named
      exact closes_retrieveSubmitted manager account { request with pickupId := some pickupId }
        (by rw [filled?_eq_some.mpr ⟨rfl, filled.2⟩]; exact nofun)
    · exact closes_fetchCertificate account _
    · next unnamed uncertified => exact absurd uncertified (known unnamed)
  · exact .fail (.of_isPlain rfl)

/-- The answer to an upload is refused for what it says, or it is not read as a receipt. -/
theorem founded_of_uploadOutcome {session : Session} {wanted : Upload} {response : Response}
    {failure : Failure} (told : Told arrivals sent (.upload session wanted) response)
    (failed : uploadOutcome response = .error failure) :
    Founded arrivals own sent (.failed failure) := by
  by_cases success : 200 ≤ response.status ∧ response.status < 300
  · rw [uploadOutcome_of_success success.1 success.2] at failed
    unfold decodeBody at failed
    cases read : readBody UploadReceipt.check response.body with
    | invalid faults =>
      rw [read] at failed
      cases failed
      exact .unread (.body told (.upload session wanted) success read)
    | valid receipt =>
      rw [read] at failed
      simp only [Except.bind] at failed
      split at failed <;> cases failed
      exact .of_isPlain rfl
  · -- Whatever the status says, it is no success, and the body is not read for it.
    unfold uploadOutcome at failed
    simp only at failed
    have unsuccessful : response.isSuccess = false := by
      simpa [Response.isSuccess] using success
    rw [unsuccessful] at failed
    split at failed
    · cases failed
      exact .of_isPlain rfl
    · split at failed
      · cases failed
        exact .of_isPlain rfl
      · cases failed
        exact .of_isPlain rfl

/-- What an import stops for on account of its caller. -/
inductive Unimportable (manager : Manager) (request : ImportRequest) (arrivals : List Arrival)
    (sent : List Call) : Stop → Prop
  /-- The certificate that is to be imported cannot be read. -/
  | certificate (unread : X509.Certificate.ofText? (Utf8.encode request.certificateData) = none) :
      Unimportable manager request arrivals sent
        (.failed (.decoding ⟨"Can't parse certificate", none⟩ []))
  /-- The delay is refused that the service is given to settle, behind an upload that it has taken. -/
  | delay {session : Session} {wanted : Upload} {response : Response} {lapse : Lapse}
      (told : Told arrivals sent (.upload session wanted) response)
      (taken : uploadOutcome response = .ok ())
      (refusal : manager.sleeper manager.settleDelay = some lapse) :
      Unimportable manager request arrivals sent (.lapsed lapse)

theorem closes_importCertificate (session : Option Session) (request : ImportRequest) :
    (manager.importCertificate session request).Closes arrivals
      (Founded arrivals (Unimportable manager request arrivals)) sent fun _ _ => True := by
  rw [importCertificate_eq]
  refine closes_authenticated fun account => ?_
  split
  · next unread => exact .fail (.own (.certificate unread))
  · refine Run.Closes.andThen ?_ fun applicationId later => ?_
    · unfold applicationFor
      split
      · exact .pure trivial
      · refine closes_zoneFor manager fun zone => ?_
        exact (Client.closes_application account _).andThen fun _ _ => .pure trivial
    · refine (Client.closes_upload account _).bind fun response later told => ?_
      refine .ofOutcome_bind (fun _ taken => ?_) fun failure failed =>
        founded_of_uploadOutcome told failed
      refine (Run.Closes.sleep fun lapse refusal => .own (.delay told taken refusal)).bind
        fun _ later _ => ?_
      refine (Client.closes_search account (Resolution.shallow_fingerprintSearch _)).andThen
        fun found later => ?_
      -- One certificate is found, or it is told how many there are.
      split
      · exact .log_bind (.pure trivial)
      · exact .fail (.of_isPlain rfl)

end Manager

namespace Operation

/-- What an operation stops for on account of what its caller has given. -/
inductive Misgiven (desk : Desk) (arrivals : List Arrival) (sent : List Call) :
    Operation → Stop → Prop
  /-- The hours of a request. -/
  | request {name : String} {stop : Stop}
      (unwritable : Manager.Unwritable ((desk.ledger.request? name).getD {}) stop) :
      Misgiven desk arrivals sent (.request name) stop
  /-- The signing request, a key that is to be compared with its own, or the interval of the reads. -/
  | retrieve {name : String} {stop : Stop} (irretrievable : Manager.Irretrievable desk.manager
      ((desk.ledger.request? name).getD {}).csr arrivals sent stop) :
      Misgiven desk arrivals sent (.retrieve name) stop
  /-- The certificate that is to be imported, or the delay behind its upload. -/
  | importCertificate {wanted : ImportRequest} {stop : Stop}
      (unimportable : Manager.Unimportable desk.manager wanted arrivals sent stop) :
      Misgiven desk arrivals sent (.importCertificate wanted) stop
  /-- The interval of the reads. -/
  | await {requestId : Option String} {timeout : Double} {stop : Stop} (unslept :
      Polling.Unslept desk.manager.sleeper desk.manager.pollInterval arrivals sent stop) :
      Misgiven desk arrivals sent (.await requestId timeout) stop

/-- What a caller has given is not decoded, or the platform refuses it. -/
theorem Misgiven.decoding_or_lapsed {desk : Desk} {arrivals : List Arrival} {sent : List Call}
    {operation : Operation} {stop : Stop} (given : operation.Misgiven desk arrivals sent stop) :
    (∃ note faults, stop = .failed (.decoding note faults)) ∨ ∃ lapse, stop = .lapsed lapse := by
  cases given with
  | request unwritable =>
    cases unwritable
    exact .inr ⟨_, rfl⟩
  | retrieve irretrievable => exact irretrievable.decoding_or_lapsed
  | importCertificate unimportable =>
    cases unimportable with
    | certificate => exact .inl ⟨_, _, rfl⟩
    | delay => exact .inr ⟨_, rfl⟩
  | await unslept =>
    cases unslept
    exact .inr ⟨_, rfl⟩

/-- A wait that has no session to wait in. -/
def WaitsOutside (desk : Desk) (operation : Operation) : Prop :=
  desk.session = none ∧ ∃ requestId timeout, operation = .await requestId timeout

/-- Only an import uploads. -/
theorem imports_of_uploads (desk : Desk) (operation : Operation) (arrivals : List Arrival)
    {call : Call} (made : call ∈ (desk.perform operation arrivals).2.1.sent)
    (uploads : call.Uploads) : ∃ wanted, operation = .importCertificate wanted := by
  obtain ⟨calls, ⟨reads, writes, rfl, quiet, final⟩, course⟩ :=
    (operation.writesLast_run desk).course { arrivals }
  have sent : (desk.perform operation arrivals).2.1.sent = reads ++ writes := course.sent
  rw [sent] at made
  have submits (post : Call) : post.Submits → call ∈ [post] → False := by
    intro submits member
    rw [List.mem_singleton.mp member] at uploads
    exact absurd (submits.2.symm.trans uploads.2)
      (by decide +kernel : Endpoint.certificateRequests ≠ Endpoint.certificates)
  rcases List.mem_append.mp made with member | member
  · exact absurd (.inr uploads) (quiet call member)
  · -- What an operation may end with uploads only if it is an import.
    cases final with
    | nothing => cases member
    | request _ posts => exact (submits _ posts member).elim
    | renewal _ _ posts => exact (submits _ posts member).elim
    | upload wanted => exact ⟨wanted, rfl⟩
    | settled wanted => exact ⟨wanted, rfl⟩

/-- Every operation closes, but for a wait that has no session to wait in. -/
theorem closes_run (desk : Desk) (operation : Operation) (inside : ¬ operation.WaitsOutside desk)
    (arrivals : List Arrival) (sent : List Call) :
    (operation.run desk).Closes arrivals
      (Founded arrivals fun sent => operation.Misgiven desk arrivals sent) sent fun _ _ => True := by
  cases operation with
  | authenticate apiKey => exact .map _ (Manager.closes_authenticate apiKey)
  | readZone zone => exact .map _ (Manager.closes_readZone desk.manager desk.session zone)
  | request name =>
    exact (Run.Closes.map _ (Manager.closes_requestCertificate desk.manager desk.session _)).regard
      fun _ _ founded => founded.regard .request
  | retrieve name =>
    exact (Run.Closes.map _ (Manager.closes_retrieveCertificate desk.manager desk.session _)).regard
      fun _ _ founded => founded.regard .retrieve
  | renew renewal name => exact .map _ (Manager.closes_renewCertificate desk.session _)
  | importCertificate wanted =>
    exact (Run.Closes.map _
      (Manager.closes_importCertificate desk.manager desk.session wanted)).regard
      fun _ _ founded => founded.regard .importCertificate
  | list filter zone =>
    exact .map _ (Manager.closes_listCertificates desk.manager desk.now desk.session filter zone)
  | await requestId timeout =>
    cases present : desk.session with
    | none => exact absurd ⟨present, requestId, timeout, rfl⟩ inside
    | some session =>
      simp only [run, present]
      exact .map _ (Polling.closes_awaitIssuance session (fun _ _ => .await) _ _)

/-- Without a session, a wait calls nothing, and it ends for want of one or has nothing to wait for. -/
theorem performed_outside {desk : Desk} {operation : Operation}
    (outside : operation.WaitsOutside desk) (arrivals : List Arrival) :
    (desk.perform operation arrivals).2.1.sent = [] ∧
      ((desk.perform operation arrivals).1 = .error .noSession ∨
        ∃ result, (desk.perform operation arrivals).1 = .ok result) := by
  obtain ⟨absent, requestId, timeout, rfl⟩ := outside
  simp only [Desk.perform, run, absent, Run.on_eq_hold, Run.hold_map, Polling.awaitIssuance]
  cases filled? requestId with
  | none => exact ⟨rfl, .inr ⟨_, rfl⟩⟩
  | some requestId => exact ⟨rfl, .inl rfl⟩

end Operation

section Ending

variable {α : Type} {arrivals : List Arrival}

/-- As long as all calls are answered, the replies that are taken are responses. -/
theorem responses_of_answered {count : Nat}
    (answered : ∀ position < count, ({ arrivals } : Dialogue).Answers position) :
    ∀ arrival ∈ arrivals.take count, ∃ response, arrival.reply = .response response := by
  intro arrival member
  obtain ⟨position, early, place⟩ := List.mem_take_iff_getElem.mp member
  obtain ⟨other, response, found, replied⟩ := answered position (by omega)
  have same : arrivals[position]? = some arrival := by
    rw [List.getElem?_eq_getElem (by omega), place]
  rw [same] at found
  cases found
  exact ⟨response, replied⟩

/-- Where the last call is not answered, a reply that is no response is the one to that call. -/
theorem eq_of_missed {calls : List Call} {arrival : Arrival}
    (answered : ∀ position < calls.length, ({ arrivals } : Dialogue).Answers position)
    (taken : arrival ∈ arrivals.take (calls.length + 1))
    (other : ∀ response, arrival.reply ≠ .response response) :
    arrivals[calls.length]? = some arrival := by
  rw [List.take_add_one] at taken
  rcases List.mem_append.mp taken with before | last
  · obtain ⟨response, replied⟩ := responses_of_answered answered arrival before
    exact absurd replied (other response)
  · exact Option.mem_toList.mp last

/--
Where a reply is missed, there is none left for the last call, or the one to it is no response.

All the replies before are responses.
-/
theorem Missed.unanswered_or_last {sent : List Call} {stop : Stop}
    (missed : Missed arrivals sent stop) :
    (stop = .unanswered ∧ arrivals.length < sent.length ∧
      ∀ arrival ∈ arrivals.take sent.length, ∃ response, arrival.reply = .response response) ∨
    ∃ call arrival, sent.getLast? = some call ∧ arrival ∈ arrivals.take sent.length ∧
      call.Misses arrival.reply stop ∧
      ∀ other ∈ arrivals.take sent.length,
        (∀ response, other.reply ≠ .response response) → other = arrival := by
  obtain ⟨calls, call, rfl, answered, missed⟩ := missed
  rw [List.length_append, List.length_singleton]
  rcases missed with ⟨none, rfl⟩ | ⟨arrival, place, misses⟩
  · refine .inl ⟨rfl, Nat.lt_succ_of_le (List.getElem?_eq_none_iff.mp none), ?_⟩
    rw [List.take_add_one, none]
    simpa using responses_of_answered answered
  · refine .inr ⟨call, arrival, List.getLast?_concat, ?_, misses, fun other taken silent => ?_⟩
    · rw [List.take_add_one, place]
      exact List.mem_append_right _ (List.mem_singleton_self arrival)
    · have same := eq_of_missed answered taken silent
      rw [place, Option.some.injEq] at same
      exact same.symm

end Ending

/-- The transport has failed on a call, with a text that says how. -/
def Reply.TransportFails (reply : Reply) (text : String) : Prop :=
  reply = .timeout text ∨ reply = .broken text

theorem Reply.TransportFails.not_response {reply : Reply} {text : String}
    (fails : reply.TransportFails text) (response : Response) : reply ≠ .response response := by
  rcases fails with rfl | rfl <;> exact nofun

/-- What a failure of the transport comes to, for an upload and for any other call. -/
theorem Call.Misses.of_transport {call : Call} {reply : Reply} {stop : Stop} {text : String}
    (misses : call.Misses reply stop) (fails : reply.TransportFails text) :
    (call.Uploads → stop = .failed (.refused .unavailable
      ⟨"Certificate service temporarily unavailable", some text⟩ {})) ∧
    (¬ call.Uploads → ∃ message, stop = .failed (.connection ⟨message, some text⟩)) := by
  rcases fails with rfl | rfl
  · cases misses with
    | timeout _ other => exact ⟨fun uploads => absurd uploads other, fun _ => ⟨_, rfl⟩⟩
    | uploadTimeout _ uploads => exact ⟨fun _ => rfl, fun other => absurd uploads other⟩
  · cases misses with
    | broken _ other => exact ⟨fun uploads => absurd uploads other, fun _ => ⟨_, rfl⟩⟩
    | uploadBroken _ uploads => exact ⟨fun _ => rfl, fun other => absurd uploads other⟩

/-- Without a response, a call fails, or it is given up for the reason that its reply gives. -/
theorem Call.Misses.failed_or_abandoned {call : Call} {reply : Reply} {stop : Stop}
    (misses : call.Misses reply stop) :
    (∃ failure, stop = .failed failure) ∨
      ∃ reason, stop = .abandoned reason ∧ reply = .abandoned reason := by
  cases misses with
  | abandoned reason => exact .inr ⟨reason, rfl, rfl⟩
  | _ => exact .inl ⟨_, rfl⟩

/-- A call that is told of as a failure of the connection is one the transport has failed on. -/
theorem Call.Misses.of_connection {call : Call} {reply : Reply} {note : Note}
    (misses : call.Misses reply (.failed (.connection note))) :
    ∃ text, reply.TransportFails text ∧ note.details = some text := by
  cases misses with
  | timeout text => exact ⟨text, .inl rfl, rfl⟩
  | broken text => exact ⟨text, .inr rfl, rfl⟩

/-- Without a response, there is nothing to decode. -/
theorem Call.Misses.not_decoding {call : Call} {reply : Reply} {note : Note} {faults : List Fault} :
    ¬ call.Misses reply (.failed (.decoding note faults)) := by
  intro misses
  cases misses

/-- What the ending of a run tells: of its failure, of a transport that fails, and of what is not read. -/
theorem Run.Ending.tells {α : Type} {arrivals : List Arrival} {own : List Call → Stop → Prop}
    {post : α → List Call → Prop} (fair : ∀ sent stop, own sent stop →
      (∃ note faults, stop = .failed (.decoding note faults)) ∨ ∃ lapse, stop = .lapsed lapse)
    {outcome : Except Stop α} {later : Dialogue}
    (ending : Run.Ending arrivals (Founded arrivals own) post outcome later) :
    let taken := arrivals.take later.sent.length
    ((∃ value, outcome = .ok value) ∨ (∃ failure, outcome = .error (.failed failure)) ∨
      (∃ lapse, outcome = .error (.lapsed lapse) ∧ own later.sent (.lapsed lapse)) ∨
      (outcome = .error .unanswered ∧ arrivals.length < later.sent.length) ∨
      ∃ reason, outcome = .error (.abandoned reason) ∧
        ∃ arrival ∈ taken, arrival.reply = .abandoned reason) ∧
    (∀ arrival ∈ taken, ∀ text, arrival.reply.TransportFails text →
      ∃ call stop, later.sent.getLast? = some call ∧ outcome = .error stop ∧
        call.Misses arrival.reply stop) ∧
    (∀ note, outcome = .error (.failed (.connection note)) →
      ∃ arrival ∈ taken, ∃ text, arrival.reply.TransportFails text ∧ note.details = some text) ∧
    ∀ note faults, outcome = .error (.failed (.decoding note faults)) →
      Unread arrivals later.sent (.decoding note faults) ∨
        own later.sent (.failed (.decoding note faults)) := by
  intro taken
  cases ending with
  | @given value _ answered known =>
    refine ⟨.inl ⟨value, rfl⟩, fun arrival member text fails => ?_, nofun, nofun⟩
    obtain ⟨response, replied⟩ := responses_of_answered answered.answered arrival member
    exact absurd replied (fails.not_response response)
  | @stopped stop _ answered founded =>
    refine ⟨?_, fun arrival member text fails => ?_, fun note same => ?_, fun note faults same => ?_⟩
    · cases founded with
      | @plain failure | @unread failure => exact .inr (.inl ⟨failure, rfl⟩)
      | own given =>
        rcases fair _ _ given with ⟨_, _, rfl⟩ | ⟨lapse, rfl⟩
        · exact .inr (.inl ⟨_, rfl⟩)
        · exact .inr (.inr (.inl ⟨lapse, rfl, given⟩))
    · obtain ⟨response, replied⟩ := responses_of_answered answered.answered arrival member
      exact absurd replied (fails.not_response response)
    · -- What rests on a response, or on what the caller has given, is not about the connection.
      cases same
      cases founded with
      | plain plain => exact absurd rfl (plain.1 note)
      | unread unread => cases unread
      | own given => rcases fair _ _ given with ⟨_, _, other⟩ | ⟨_, other⟩ <;> cases other
    · cases same
      cases founded with
      | plain plain => exact absurd rfl (plain.2 note faults)
      | unread unread => exact .inl unread
      | own given => exact .inr given
  | @missed stop _ missed =>
    rcases missed.unanswered_or_last with ⟨rfl, short, responses⟩ | ⟨call, arrival, last, member,
      misses, others⟩
    · refine ⟨.inr (.inr (.inr (.inl ⟨rfl, short⟩))), fun arrival member text fails => ?_, nofun, nofun⟩
      obtain ⟨response, replied⟩ := responses arrival member
      exact absurd replied (fails.not_response response)
    · refine ⟨?_, fun other among text fails => ?_, fun note same => ?_, fun note faults same => ?_⟩
      · rcases misses.failed_or_abandoned with ⟨failure, rfl⟩ | ⟨reason, rfl, replied⟩
        · exact .inr (.inl ⟨failure, rfl⟩)
        · exact .inr (.inr (.inr (.inr ⟨reason, rfl, arrival, member, replied⟩)))
      · -- Among the replies that are taken, only the last can be one that the transport fails with.
        cases others other among fails.not_response
        exact ⟨call, stop, last, rfl, misses⟩
      · cases same
        exact ⟨arrival, member, misses.of_connection⟩
      · cases same
        exact absurd misses Call.Misses.not_decoding

/--
Every operation returns, or it fails in a way its callers are told of, but for what stops it otherwise.

The platform may refuse hours that are too many, or the time to sleep behind a status in flight or
behind an upload; no reply is left, a call is given up for what is no failure of the transport, or a
wait has no session. A failure of the transport, and nothing else, is told as one of the connection;
an upload tells of a service that cannot be used. A failure of decoding is about the last response
or about what the caller has given, and it says what could not be read.
-/
theorem Desk.perform_closes (desk : Desk) (operation : Operation) (arrivals : List Arrival) :
    let performed := desk.perform operation arrivals
    let sent := performed.2.1.sent
    let taken := arrivals.take sent.length
    ((∃ result, performed.1 = .ok result) ∨ (∃ failure, performed.1 = .error (.failed failure)) ∨
      (∃ lapse, performed.1 = .error (.lapsed lapse) ∧
        operation.Misgiven desk arrivals sent (.lapsed lapse)) ∨
      (performed.1 = .error .unanswered ∧ arrivals.length < sent.length) ∨
      (∃ reason, performed.1 = .error (.abandoned reason) ∧
        ∃ arrival ∈ taken, arrival.reply = .abandoned reason) ∨
      (performed.1 = .error .noSession ∧ operation.WaitsOutside desk)) ∧
    (∀ arrival ∈ taken, ∀ text, arrival.reply.TransportFails text →
      ∃ call, sent.getLast? = some call ∧
        (call.Uploads → (∃ wanted, operation = .importCertificate wanted) ∧
          performed.1 = .error (.failed (.refused .unavailable
            ⟨"Certificate service temporarily unavailable", some text⟩ {}))) ∧
        (¬ call.Uploads → ∃ message,
          performed.1 = .error (.failed (.connection ⟨message, some text⟩)))) ∧
    (∀ note, performed.1 = .error (.failed (.connection note)) →
      ∃ arrival ∈ taken, ∃ text, arrival.reply.TransportFails text ∧ note.details = some text) ∧
    ∀ note faults, performed.1 = .error (.failed (.decoding note faults)) →
      Unread arrivals sent (.decoding note faults) ∨
        operation.Misgiven desk arrivals sent (.failed (.decoding note faults)) := by
  intro performed sent taken
  by_cases outside : operation.WaitsOutside desk
  · obtain ⟨silent, ended⟩ := Operation.performed_outside outside arrivals
    have nothing : ∀ arrival, arrival ∉ taken := by
      intro arrival
      simp only [taken, sent, performed, silent, List.length_nil, List.take_zero,
        List.not_mem_nil, not_false_iff]
    have unfailed (failure : Failure) : performed.1 ≠ .error (.failed failure) := by
      rcases ended with stopped | ⟨result, returned⟩
      · exact fun failed => absurd (stopped.symm.trans failed) nofun
      · exact fun failed => absurd (returned.symm.trans failed) nofun
    refine ⟨?_, fun arrival member => absurd member (nothing arrival),
      fun note failed => absurd failed (unfailed _),
      fun note faults failed => absurd failed (unfailed _)⟩
    exact ended.elim (fun stopped => .inr (.inr (.inr (.inr (.inr ⟨stopped, outside⟩))))) .inl
  · have ending : Run.Ending arrivals (Founded arrivals fun sent => operation.Misgiven desk arrivals sent)
        (fun _ _ => True) performed.1 performed.2.1 :=
      (operation.closes_run desk outside arrivals []).closed rfl ⟨rfl, nofun⟩
    obtain ⟨ended, transport, connection, decoding⟩ :=
      ending.tells fun _ _ given => given.decoding_or_lapsed
    refine ⟨?_, fun arrival member text fails => ?_, connection, decoding⟩
    · rcases ended with returned | failed | lapsed | unanswered | abandoned
      · exact .inl returned
      · exact .inr (.inl failed)
      · exact .inr (.inr (.inl lapsed))
      · exact .inr (.inr (.inr (.inl unanswered)))
      · exact .inr (.inr (.inr (.inr (.inl abandoned))))
    · obtain ⟨call, stop, last, stopped, misses⟩ := transport arrival member text fails
      obtain ⟨uploading, other⟩ := misses.of_transport fails
      refine ⟨call, last, fun uploads => ⟨?_, ?_⟩, fun reads => ?_⟩
      · exact operation.imports_of_uploads desk arrivals (List.mem_of_getLast? last) uploads
      · rw [stopped, uploading uploads]
      · obtain ⟨message, same⟩ := other reads
        exact ⟨message, by rw [stopped, same]⟩

/--
Not everything that an operation ends with is told its callers, although all replies are responses.

A wait at an interval of 10^10 seconds overflows behind a status in flight, and 10^4300 hours are
not written. Neither ends with a result or with a failure.
-/
theorem Desk.perform_untold :
    let session : Session := ⟨"key", { company := some ⟨"co-1", "Example"⟩ }⟩
    let manager : Manager := ⟨none, .ofInt 10000000000, .ofInt 1, "host", .system⟩
    let request : CertificateRequest := {
      csr := some "csr", zone := some "Payments", validityHours := (10 ^ 4300 : Nat) }
    let desk : Desk := ⟨manager, ⟨2026, 1, 15, 12, 30, 45, 0, some 0⟩, some session, [("new", request)]⟩
    let waited := desk.perform (.await (some "7214") (.ofInt 60)) [Polling.pendingReply]
    let requested := desk.perform (.request "new") [⟨.zero, Manager.aliasReply⟩]
    (waited.1 = .error (.lapsed .overflow) ∧ waited.2.1.sent = [.status session "7214"]) ∧
      (requested.1 = .error (.lapsed .value) ∧
        requested.2.1.sent = [.application session "Payments"]) ∧
      (∀ result, waited.1 ≠ .ok result ∧ requested.1 ≠ .ok result) ∧
      ∀ failure, waited.1 ≠ .error (.failed failure) ∧ requested.1 ≠ .error (.failed failure) := by
  intro session manager request desk waited requested
  have filled : "7214" ≠ "" := by decide
  have submittable : manager.Submittable session request ⟨"Payments", ""⟩ "csr" :=
    { own := by decide, company := rfl, signing := rfl, filled := by decide
      zoned := .own rfl (by decide) (by decide +kernel) }
  have told : Manager.aliasReply.Tells Application.check 200
      ⟨"app-1", "", [("Default", "tpl-1")]⟩ := ⟨_, rfl, rfl, by decide +kernel⟩
  let waiting : Dialogue := { arrivals := [Polling.pendingReply] }
  let requesting : Dialogue := { arrivals := [⟨.zero, Manager.aliasReply⟩] }
  -- One minute is not over behind the one read, so that there is a sleep to be taken.
  obtain ⟨log, refused⟩ := Polling.awaitIssuance_of_refused session filled
    (by decide +kernel : Sleeper.system manager.pollInterval = some .overflow)
    (rfl : (Polling.readings manager.pollInterval waiting.clock waiting.arrivals)[0]? =
      some (.of .zero Polling.pendingReply))
    (by decide +kernel) (by decide +kernel : ¬ Polling.Reading.Late (.ofInt 60) waiting.clock _)
  have unwritten := @Manager.hold_requestCertificate_of_tooLong _ _ _ _ _ _ submittable requesting
    _ _ rfl told _ rfl (by decide +kernel : 0 < request.validityHours) (by decide +kernel)
  have waits : waited.1 = .error (.lapsed .overflow) ∧
      waited.2.1.sent = [.status session "7214"] := by
    simp only [waited, Desk.perform, Operation.run, Run.on_eq_hold, Run.hold_map]
    rw [refused]
    exact ⟨rfl, rfl⟩
  have requests : requested.1 = .error (.lapsed .value) ∧
      requested.2.1.sent = [.application session "Payments"] := by
    have named : (desk.ledger.request? "new").getD {} = request := rfl
    simp only [requested, Desk.perform, Operation.run, Run.on_eq_hold, Run.hold_map, named]
    rw [unwritten]
    exact ⟨rfl, rfl⟩
  rw [waits.1, requests.1]
  exact ⟨⟨rfl, waits.2⟩, ⟨rfl, requests.2⟩, fun _ => ⟨nofun, nofun⟩, fun _ => ⟨nofun, nofun⟩⟩

end Issuance
