import Issuance.Proofs.Base64
import Issuance.Proofs.Fingerprint
import Issuance.Proofs.Import
import Issuance.Proofs.Manager
import Issuance.Proofs.Retrieval

/-! An import from its preparation to its end: what is uploaded, what that comes to, and what is looked up. -/

namespace Issuance

namespace Manager

/-- The application to import into is given, or else it is that of the zone and a reply tells of it. -/
inductive Destination (manager : Manager) (session : Session) (request : ImportRequest) :
    List Call → List Arrival → String → Prop
  | given {applicationId : String} (named : filled? request.applicationId = some applicationId) :
      Destination manager session request [] [] applicationId
  | looked {zone : Zone} {arrival : Arrival} {application : Application}
      (unnamed : filled? request.applicationId = none)
      (zoned : manager.zoneFor request.zone = .ok zone)
      (told : arrival.reply.Tells Application.check 200 application) :
      Destination manager session request [.application session zone.application] [arrival]
        application.id

/-- What stands before the upload of an import: a certificate that can be read, and where it is to go. -/
structure Preparation (manager : Manager) (session : Option Session) (request : ImportRequest)
    (arrivals : List Arrival) where
  account : Session
  present : session = some account
  company : account.account.company.isSome
  certificate : X509.Certificate
  readable : X509.Certificate.ofText? (Utf8.encode request.certificateData) = some certificate
  /-- The calls that look the application up, and the replies they take. -/
  lookup : List Call
  replies : List Arrival
  applicationId : String
  destination : Destination manager account request lookup replies applicationId
  /-- The replies that are left for the delivery. -/
  rest : List Arrival
  next : arrivals = replies ++ rest

/-- A reply to an upload that tells of the one certificate taken. -/
def Taken (reply : Reply) : Prop :=
  ∃ response receipt, reply = .response response ∧ 200 ≤ response.status ∧ response.status < 300 ∧
    readBody UploadReceipt.check response.body = .valid receipt ∧ receipt.certificates.length = 1

/-- A reply to an upload that is no success, and the failure it comes to. -/
inductive Declined : Reply → Failure → Prop
  /-- The service rejects the certificate. -/
  | rejected {response : Response}
      (status : response.status = 400 ∨ response.status = 403 ∨ response.status = 409) :
      Declined (.response response)
        (.refused .badData ⟨"Certificate can't be imported", none⟩ (.ofResponse response))
  /-- The service is out of order. -/
  | outage {response : Response} (low : 500 ≤ response.status) (high : response.status < 600) :
      Declined (.response response)
        (.refused .unavailable ⟨"Certificate service temporarily unavailable", none⟩
          (.ofResponse response))
  | timeout (text : String) : Declined (.timeout text)
      (.refused .unavailable ⟨"Certificate service temporarily unavailable", some text⟩ {})
  | broken (text : String) : Declined (.broken text)
      (.refused .unavailable ⟨"Certificate service temporarily unavailable", some text⟩ {})
  /-- Any other status that is no success. -/
  | refused {response : Response}
      (accepted : ¬ (response.status = 400 ∨ response.status = 403 ∨ response.status = 409))
      (inOrder : ¬ (500 ≤ response.status ∧ response.status < 600))
      (unsuccessful : ¬ (200 ≤ response.status ∧ response.status < 300)) :
      Declined (.response response)
        (.refused .unexpected ⟨"Certificate service error", none⟩ (.ofResponse response))
  | unreadable {response : Response} {faults : List Fault} (low : 200 ≤ response.status)
      (high : response.status < 300)
      (invalid : readBody UploadReceipt.check response.body = .invalid faults) :
      Declined (.response response) (.unreadableBody "certificate import" faults)
  /-- A success that lists no certificate, or more than the one uploaded. -/
  | miscounted {response : Response} {receipt : UploadReceipt} (low : 200 ≤ response.status)
      (high : response.status < 300)
      (valid : readBody UploadReceipt.check response.body = .valid receipt)
      (other : receipt.certificates.length ≠ 1) :
      Declined (.response response)
        (.refused .badData ⟨"Certificate was not imported for an unknown reason", none⟩
          (.ofResponse response))

/-- A reply to an upload tells of one certificate taken, or it has its failure, unless the call was given up. -/
theorem taken_or_declined (reply : Reply) :
    Taken reply ∨ (∃ failure, Declined reply failure) ∨ ∃ reason, reply = .abandoned reason := by
  cases reply with
  | timeout text => exact .inr (.inl ⟨_, .timeout text⟩)
  | broken text => exact .inr (.inl ⟨_, .broken text⟩)
  | abandoned reason => exact .inr (.inr ⟨reason, rfl⟩)
  | response response =>
    by_cases rejected : response.status = 400 ∨ response.status = 403 ∨ response.status = 409
    · exact .inr (.inl ⟨_, .rejected rejected⟩)
    · by_cases outage : 500 ≤ response.status ∧ response.status < 600
      · exact .inr (.inl ⟨_, .outage outage.1 outage.2⟩)
      · by_cases success : 200 ≤ response.status ∧ response.status < 300
        · -- With a status of success it is the body that decides.
          obtain ⟨low, high⟩ := success
          cases read : readBody UploadReceipt.check response.body with
          | invalid faults => exact .inr (.inl ⟨_, .unreadable low high read⟩)
          | valid receipt =>
            by_cases one : receipt.certificates.length = 1
            · exact .inl ⟨response, receipt, rfl, low, high, read, one⟩
            · exact .inr (.inl ⟨_, .miscounted low high read one⟩)
        · exact .inr (.inl ⟨_, .refused rejected outage success⟩)

/-- What the reply to an upload comes to. -/
def judged (reply : Reply) : Except Stop Unit :=
  (uploadLearned reply.answer).bind fun response => (uploadOutcome response).mapError .failed

theorem judged_response (response : Response) :
    judged (.response response) = (uploadOutcome response).mapError .failed := rfl

/-- With a status of success, the outcome of an upload is decided by the body. -/
theorem uploadOutcome_of_success {response : Response} (low : 200 ≤ response.status)
    (high : response.status < 300) : uploadOutcome response =
      (decodeBody UploadReceipt.check "certificate import" response.body).bind fun receipt =>
        if receipt.certificates.length = 1 then .ok () else .error (.notImported response) := by
  have success : response.isSuccess = true := by
    simp only [Response.isSuccess, Bool.and_eq_true, decide_eq_true_eq]
    exact ⟨low, high⟩
  unfold uploadOutcome
  rw [if_neg (by omega), if_neg (by omega), success]
  rfl

theorem judged_of_taken {reply : Reply} (taken : Taken reply) : judged reply = .ok () := by
  obtain ⟨response, receipt, rfl, low, high, valid, one⟩ := taken
  rw [judged_response, uploadOutcome_of_success low high, decodeBody, valid]
  show (if receipt.certificates.length = 1 then Except.ok () else _).mapError Stop.failed = _
  rw [if_pos one]
  rfl

theorem judged_of_declined {reply : Reply} {failure : Failure} (declined : Declined reply failure) :
    judged reply = .error (.failed failure) := by
  cases declined with
  | timeout text => rfl
  | broken text => rfl
  | rejected status =>
    rw [judged_response]
    unfold uploadOutcome
    rw [if_pos status]
    rfl
  | outage low high =>
    rw [judged_response]
    unfold uploadOutcome
    rw [if_neg (by omega), if_pos ⟨low, high⟩]
    rfl
  | @refused response accepted inOrder unsuccessful =>
    have status : response.isSuccess = false := by
      simp only [Response.isSuccess, Bool.and_eq_false_iff, decide_eq_false_iff_not]
      omega
    rw [judged_response]
    unfold uploadOutcome
    rw [if_neg accepted, if_neg inOrder, status]
    rfl
  | unreadable low high invalid =>
    rw [judged_response, uploadOutcome_of_success low high, decodeBody, invalid]
    rfl
  | @miscounted response receipt low high valid other =>
    rw [judged_response, uploadOutcome_of_success low high, decodeBody, valid]
    show (if receipt.certificates.length = 1 then Except.ok () else _).mapError Stop.failed = _
    rw [if_neg other]
    rfl

/-- An upload goes through only with a reply that tells of the one certificate taken. -/
theorem taken_of_judged {reply : Reply} (passed : judged reply = .ok ()) : Taken reply := by
  rcases taken_or_declined reply with taken | ⟨failure, declined⟩ | ⟨reason, rfl⟩
  · exact taken
  · rw [judged_of_declined declined] at passed
    cases passed
  · cases passed

/-- The lookup of a certificate that was imported, by the fingerprint it has. -/
def findImported (session : Session) (certificate : X509.Certificate) (applicationId : String) :
    Run ImportedCertificate := do
  let found ← Resolution.searchByFingerprint session certificate.fingerprint
  match found.certificates with
  | [imported] =>
    Run.log .info "Certificate imported"
      [("certificate_id", .text imported.id), ("fingerprint", .text certificate.fingerprint),
        ("application_id", .text applicationId)]
    return ⟨imported.subjectCn, imported.id⟩
  | others => Run.fail (.importInconsistent certificate.fingerprint others.length)

/-- The delivery of a certificate: its upload, the wait for the service to settle, and its lookup. -/
def deliver (manager : Manager) (session : Session) (request : ImportRequest)
    (certificate : X509.Certificate) (applicationId : String) : Run ImportedCertificate := do
  let response ← upload session (manager.uploadOf request certificate applicationId)
  Run.ofOutcome (uploadOutcome response)
  Run.sleep manager.sleeper manager.settleDelay
  findImported session certificate applicationId

/-- An import delivers the certificate that it has read to the application that it has found. -/
theorem importCertificate_eq (manager : Manager) (session : Option Session)
    (request : ImportRequest) :
    manager.importCertificate session request = (do
      let session ← Run.ofOutcome (authenticated session "import a certificate")
      match X509.Certificate.ofText? (Utf8.encode request.certificateData) with
      | none => Run.fail .unreadableCertificate
      | some certificate =>
        let applicationId ← manager.applicationFor session request
        manager.deliver session request certificate applicationId) := rfl

section Delivery

variable {manager : Manager} {session : Session} {request : ImportRequest}

/-- Where there is a destination, it is found by its calls. -/
theorem hold_applicationFor_of_destination {lookup : List Call} {replies rest : List Arrival}
    {applicationId : String}
    (destination : Destination manager session request lookup replies applicationId)
    {dialogue : Dialogue} (next : dialogue.arrivals = replies ++ rest) :
    ∃ later, (manager.applicationFor session request).hold dialogue = (.ok applicationId, later) ∧
      Dialogue.ReachedBy lookup dialogue later ∧ later.arrivals = rest := by
  unfold applicationFor
  cases destination with
  | given named =>
    rw [named]
    exact ⟨dialogue, rfl, .refl dialogue, next⟩
  | @looked zone arrival application unnamed zoned told =>
    have called := Client.hold_application session dialogue zone.application
    rw [Dialogue.learns_decodeApplication_eq_ok.mpr ⟨arrival, rest, next, told⟩] at called
    rw [unnamed, zoned]
    refine ⟨_, Run.hold_bind_ok called, .call dialogue _, ?_⟩
    rw [Dialogue.called_arrivals, next]
    rfl

/-- An application is found only where there is a destination. -/
theorem destination_of_hold_applicationFor {applicationId : String} {dialogue later : Dialogue}
    (held : (manager.applicationFor session request).hold dialogue = (.ok applicationId, later)) :
    ∃ lookup replies rest, Destination manager session request lookup replies applicationId ∧
      dialogue.arrivals = replies ++ rest := by
  unfold applicationFor at held
  cases named : filled? request.applicationId with
  | some given =>
    rw [named] at held
    cases held
    exact ⟨[], [], _, .given named, rfl⟩
  | none =>
    rw [named] at held
    obtain ⟨zone, _, parsed, held⟩ := Run.hold_bind_eq_ok held
    obtain ⟨zoned, rfl⟩ := Run.hold_ofOutcome_eq_ok.mp parsed
    obtain ⟨application, _, looked, held⟩ := Run.hold_bind_eq_ok held
    cases held
    rw [Client.hold_application, Prod.mk.injEq] at looked
    -- What was learned was told by a reply, the first of those to come.
    obtain ⟨arrival, rest, next, told⟩ := Dialogue.learns_decodeApplication_eq_ok.mp looked.1
    exact ⟨_, [arrival], rest, .looked named zoned told, next⟩

/-- An upload and the judgement on its reply are one call. -/
theorem hold_upload_judged {wanted : Upload} {dialogue : Dialogue} {arrival : Arrival}
    {rest : List Arrival} (next : dialogue.arrivals = arrival :: rest) :
    (upload session wanted >>= fun response =>
      Run.ofOutcome (uploadOutcome response)).hold dialogue =
      (judged arrival.reply, dialogue.called (.upload session wanted)) := by
  rw [Run.hold_bind, hold_upload, Dialogue.learns_cons next]
  have plain : arrival.reply.learned .ok = arrival.reply.answer := by
    cases arrival.reply <;> rfl
  unfold judged
  rw [plain]
  rcases uploadLearned arrival.reply.answer with stop | response
  · rfl
  · exact Run.hold_ofOutcome _ _

theorem deliver_eq (certificate : X509.Certificate) (applicationId : String) :
    manager.deliver session request certificate applicationId =
      (upload session (manager.uploadOf request certificate applicationId) >>= fun response =>
        Run.ofOutcome (uploadOutcome response)) >>= fun _ =>
          Run.sleep manager.sleeper manager.settleDelay >>= fun _ =>
            findImported session certificate applicationId := by
  rw [bind_assoc]
  rfl

variable {certificate : X509.Certificate} {applicationId : String} {dialogue : Dialogue}

/-- An upload that is not answered is all there is of its delivery. -/
theorem hold_deliver_unanswered (none : dialogue.arrivals = []) :
    (manager.deliver session request certificate applicationId).hold dialogue =
      (.error .unanswered, dialogue.called
        (.upload session (manager.uploadOf request certificate applicationId))) := by
  refine Run.hold_bind_error ?_
  rw [hold_upload, Dialogue.learns, none]
  rfl

/-- A delivery that is declined fails at once. -/
theorem hold_deliver_declined {arrival : Arrival} {rest : List Arrival} {failure : Failure}
    (next : dialogue.arrivals = arrival :: rest) (declined : Declined arrival.reply failure) :
    (manager.deliver session request certificate applicationId).hold dialogue =
      (.error (.failed failure), dialogue.called
        (.upload session (manager.uploadOf request certificate applicationId))) := by
  rw [deliver_eq]
  refine Run.hold_bind_error ?_
  rw [hold_upload_judged next, judged_of_declined declined]

/-- The dialogue in which an uploaded certificate is looked up: the service has had time to settle. -/
def settled (manager : Manager) (dialogue : Dialogue) : Dialogue := { dialogue with
  sleeps := dialogue.sleeps ++ [manager.settleDelay]
  clock := dialogue.clock + manager.settleDelay }

/-- A delivery that is taken goes on behind its upload. -/
theorem hold_deliver_uploaded {arrival : Arrival} {rest : List Arrival}
    (next : dialogue.arrivals = arrival :: rest) (taken : Taken arrival.reply) :
    (manager.deliver session request certificate applicationId).hold dialogue =
      (Run.sleep manager.sleeper manager.settleDelay >>= fun _ =>
        findImported session certificate applicationId).hold (dialogue.called
          (.upload session (manager.uploadOf request certificate applicationId))) := by
  have passed : (upload session (manager.uploadOf request certificate applicationId) >>=
      fun response => Run.ofOutcome (uploadOutcome response)).hold dialogue = (.ok (),
        dialogue.called
          (.upload session (manager.uploadOf request certificate applicationId))) := by
    rw [hold_upload_judged next, judged_of_taken taken]
  rw [deliver_eq, Run.hold_bind_ok passed]

/-- A delivery that is taken goes on with the lookup, behind one sleep. -/
theorem hold_deliver_taken {arrival : Arrival} {rest : List Arrival}
    (next : dialogue.arrivals = arrival :: rest) (taken : Taken arrival.reply)
    (sleeps : manager.sleeper manager.settleDelay = none) :
    (manager.deliver session request certificate applicationId).hold dialogue =
      (findImported session certificate applicationId).hold (manager.settled (dialogue.called
        (.upload session (manager.uploadOf request certificate applicationId)))) := by
  rw [hold_deliver_uploaded next taken, Run.hold_bind_ok (Run.hold_sleep_taken sleeps _)]
  rfl

/-- A delivery that is taken ends without a lookup if its sleep is refused. -/
theorem hold_deliver_refused {arrival : Arrival} {rest : List Arrival} {lapse : Lapse}
    (next : dialogue.arrivals = arrival :: rest) (taken : Taken arrival.reply)
    (refused : manager.sleeper manager.settleDelay = some lapse) :
    (manager.deliver session request certificate applicationId).hold dialogue =
      (.error (.lapsed lapse), dialogue.called
        (.upload session (manager.uploadOf request certificate applicationId))) := by
  rw [hold_deliver_uploaded next taken, Run.hold_bind_error (Run.hold_sleep_refused refused _)]

/-- A delivery that gives a certificate was taken, and so was its sleep. -/
theorem taken_of_hold_deliver {later : Dialogue} {imported : ImportedCertificate}
    (held : (manager.deliver session request certificate applicationId).hold dialogue =
      (.ok imported, later)) :
    manager.sleeper manager.settleDelay = none ∧
      ∃ arrival rest, dialogue.arrivals = arrival :: rest ∧ Taken arrival.reply := by
  cases next : dialogue.arrivals with
  | nil =>
    rw [hold_deliver_unanswered next] at held
    cases held
  | cons arrival rest =>
    rw [deliver_eq] at held
    obtain ⟨_, _, passed, behind⟩ := Run.hold_bind_eq_ok held
    rw [hold_upload_judged next, Prod.mk.injEq] at passed
    refine ⟨?_, arrival, rest, rfl, taken_of_judged passed.1⟩
    obtain ⟨_, _, slept, _⟩ := Run.hold_bind_eq_ok behind
    cases refusal : manager.sleeper manager.settleDelay with
    | none => rfl
    | some lapse =>
      rw [Run.hold_sleep_refused refusal] at slept
      cases slept

/-- The lookup is one search, for the fingerprint as it is, and no sleep. -/
theorem findImported_searches (session : Session) (certificate : X509.Certificate)
    (applicationId : String) (dialogue : Dialogue) :
    let later := ((findImported session certificate applicationId).hold dialogue).2
    later.sent = dialogue.sent ++ [.search session { expression :=
      { operands := [⟨"fingerprint", .matching, .text certificate.fingerprint⟩] } }] ∧
      later.sleeps = dialogue.sleeps := by
  have search : Resolution.fingerprintSearch certificate.fingerprint = { expression :=
      { operands := [⟨"fingerprint", .matching, .text certificate.fingerprint⟩] } } := by
    unfold Resolution.fingerprintSearch
    rw [Fingerprint.normalize_fingerprint]
  unfold findImported Resolution.searchByFingerprint
  have shallow : ({ expression := { operands := [⟨"fingerprint", .matching,
      .text certificate.fingerprint⟩] } } : Search).expression.Shallow :=
    search ▸ Resolution.shallow_fingerprintSearch _
  rw [search, Run.hold_bind, Client.hold_search session dialogue shallow]
  rcases dialogue.learns _ with stop | found
  · exact ⟨Dialogue.called_sent .., Dialogue.called_sleeps ..⟩
  · -- Whatever is found, it is only logged.
    rcases found with ⟨count, _ | ⟨record, _ | ⟨second, others⟩⟩⟩ <;>
      exact ⟨Dialogue.called_sent .., Dialogue.called_sleeps ..⟩

/-- A search that is answered gives the one record that is found, or tells how many there are. -/
theorem findImported_of_tells {arrival : Arrival} {rest : List Arrival} {count : Int}
    {records : List CertificateSummary} (next : dialogue.arrivals = arrival :: rest)
    (told : arrival.reply.Tells SearchResult.check 200 ⟨count, records⟩) :
    ((findImported session certificate applicationId).hold dialogue).1 = match records with
      | [record] => .ok ⟨record.subjectCn, record.id⟩
      | others => .error (.failed (.importInconsistent certificate.fingerprint others.length)) := by
  have learned := (Dialogue.learns_decode_eq_ok "certificate search").mpr
    ⟨arrival, rest, next, told⟩
  have searched := Client.hold_search session dialogue
    (Resolution.shallow_fingerprintSearch certificate.fingerprint)
  rw [learned] at searched
  unfold findImported Resolution.searchByFingerprint
  rw [Run.hold_bind_ok searched]
  rcases records with _ | ⟨record, _ | ⟨second, others⟩⟩ <;> rfl

/-- A lookup that gives a certificate has been told of that one and no other. -/
theorem tells_of_findImported {imported : ImportedCertificate}
    (found : ((findImported session certificate applicationId).hold dialogue).1 = .ok imported) :
    ∃ arrival rest count record, dialogue.arrivals = arrival :: rest ∧
      arrival.reply.Tells SearchResult.check 200 ⟨count, [record]⟩ ∧
      imported = ⟨record.subjectCn, record.id⟩ := by
  obtain ⟨⟨count, records⟩, _, searched, _⟩ := Run.hold_bind_eq_ok (Prod.ext found rfl)
  unfold Resolution.searchByFingerprint at searched
  rw [Client.hold_search _ _ (Resolution.shallow_fingerprintSearch _), Prod.mk.injEq] at searched
  obtain ⟨arrival, rest, next, told⟩ := (Dialogue.learns_decode_eq_ok _).mp searched.1
  rw [findImported_of_tells next told] at found
  -- Of all that a search can tell, only one record is no inconsistency.
  rcases records with _ | ⟨record, _ | ⟨second, others⟩⟩
  · cases found
  · cases found
    exact ⟨arrival, rest, count, record, next, told, rfl⟩
  · cases found

end Delivery

namespace Preparation

variable {manager : Manager} {session : Option Session} {request : ImportRequest}
  {arrivals : List Arrival}

/-- The upload of the certificate to the application. -/
def upload (preparation : Preparation manager session request arrivals) : Call :=
  .upload preparation.account
    (manager.uploadOf request preparation.certificate preparation.applicationId)

/-- The SHA-1 digest of the certificate, in hexadecimal digits in upper case. -/
def fingerprint (preparation : Preparation manager session request arrivals) : String :=
  String.ofList ((Text.hexOfBytes (Sha1.digest preparation.certificate.der)).map Char.toUpper)

/-- The search for the certificate. -/
def search (preparation : Preparation manager session request arrivals) : Call :=
  .search preparation.account
    { expression := { operands := [⟨"fingerprint", .matching, .text preparation.fingerprint⟩] } }

/-- The same preparation with other replies to come behind it. -/
def followedBy (preparation : Preparation manager session request arrivals)
    {others : List Arrival} (rest : List Arrival) (next : others = preparation.replies ++ rest) :
    Preparation manager session request others :=
  { preparation with rest, next }

/-- An import that gives a certificate has been prepared. -/
theorem of_returned {imported : ImportedCertificate}
    (returned : ((manager.importCertificate session request).on arrivals).1 = .ok imported) :
    Nonempty (Preparation manager session request arrivals) := by
  have held : (manager.importCertificate session request).hold { arrivals } = (.ok imported, _) :=
    Prod.ext returned rfl
  rw [importCertificate_eq] at held
  obtain ⟨account, _, started, held⟩ := Run.hold_bind_eq_ok held
  obtain ⟨authenticates, rfl⟩ := Run.hold_ofOutcome_eq_ok.mp started
  obtain ⟨present, company⟩ := authenticated_eq_ok.mp authenticates
  cases readable : X509.Certificate.ofText? (Utf8.encode request.certificateData) with
  | none =>
    rw [readable] at held
    cases held
  | some certificate =>
    rw [readable] at held
    obtain ⟨applicationId, _, found, _⟩ := Run.hold_bind_eq_ok held
    obtain ⟨lookup, replies, rest, destination, next⟩ := destination_of_hold_applicationFor found
    exact ⟨⟨account, present, company, certificate, readable, lookup, replies, applicationId,
      destination, rest, next⟩⟩

variable (preparation : Preparation manager session request arrivals)

/-- Behind its preparation, an import is the delivery from where that has led. -/
theorem hold_importCertificate : ∃ middle,
    (manager.importCertificate session request).on arrivals =
        (manager.deliver preparation.account request preparation.certificate
          preparation.applicationId).hold middle ∧
      middle.sent = preparation.lookup ∧ middle.sleeps = [] ∧
        middle.arrivals = preparation.rest := by
  obtain ⟨account, rfl, company, certificate, readable, lookup, replies, applicationId, destination,
    rest, next⟩ := preparation
  have toCome : ({ arrivals } : Dialogue).arrivals = replies ++ rest := next
  obtain ⟨middle, found, reached, left⟩ := hold_applicationFor_of_destination destination toCome
  refine ⟨middle, ?_, reached.sent, reached.sleeps, left⟩
  rw [Run.on_eq_hold, importCertificate_eq, Run.hold_bind_ok (hold_authenticated company _ _),
    readable]
  exact Run.hold_bind_ok found

/-- Without a reply to the upload, it is the last call, and nothing has been slept. -/
theorem unanswered (none : preparation.rest = []) :
    let held := (manager.importCertificate session request).on arrivals
    held.2.sent = preparation.lookup ++ [preparation.upload] ∧ held.2.sleeps = [] := by
  obtain ⟨middle, delivered, sent, sleeps, left⟩ := preparation.hold_importCertificate
  rw [delivered, hold_deliver_unanswered (left.trans none)]
  exact ⟨by rw [Dialogue.called_sent, sent]; rfl, by rw [Dialogue.called_sleeps, sleeps]⟩

/-- An upload that is declined is the last call, and nothing has been slept. -/
theorem declined {uploaded : Arrival} {later : List Arrival} {failure : Failure}
    (next : preparation.rest = uploaded :: later) (declined : Declined uploaded.reply failure) :
    let held := (manager.importCertificate session request).on arrivals
    held.1 = .error (.failed failure) ∧
      held.2.sent = preparation.lookup ++ [preparation.upload] ∧ held.2.sleeps = [] := by
  obtain ⟨middle, delivered, sent, sleeps, left⟩ := preparation.hold_importCertificate
  rw [delivered, hold_deliver_declined (left.trans next) declined]
  exact ⟨rfl, by rw [Dialogue.called_sent, sent]; rfl, by rw [Dialogue.called_sleeps, sleeps]⟩

/-- Behind an upload that is taken there is one sleep, and then one search. -/
theorem taken_searches {uploaded : Arrival} {later : List Arrival}
    (next : preparation.rest = uploaded :: later) (taken : Taken uploaded.reply)
    (settles : manager.sleeper manager.settleDelay = none) :
    let held := (manager.importCertificate session request).on arrivals
    held.2.sent = preparation.lookup ++ [preparation.upload, preparation.search] ∧
      held.2.sleeps = [manager.settleDelay] := by
  obtain ⟨middle, delivered, sent, sleeps, left⟩ := preparation.hold_importCertificate
  rw [delivered, hold_deliver_taken (left.trans next) taken settles]
  obtain ⟨searched, slept⟩ := findImported_searches preparation.account preparation.certificate
    preparation.applicationId (manager.settled (middle.called preparation.upload))
  refine ⟨searched.trans ?_, slept.trans ?_⟩
  · show (middle.called preparation.upload).sent ++ [preparation.search] = _
    rw [Dialogue.called_sent, sent, List.append_assoc]
    rfl
  · show (middle.called preparation.upload).sleeps ++ [manager.settleDelay] = _
    rw [Dialogue.called_sleeps, sleeps]
    rfl

/-- Behind an upload that is taken there is nothing if the sleep is refused. -/
theorem taken_lapses {uploaded : Arrival} {later : List Arrival} {lapse : Lapse}
    (next : preparation.rest = uploaded :: later) (taken : Taken uploaded.reply)
    (refused : manager.sleeper manager.settleDelay = some lapse) :
    let held := (manager.importCertificate session request).on arrivals
    held.1 = .error (.lapsed lapse) ∧
      held.2.sent = preparation.lookup ++ [preparation.upload] ∧ held.2.sleeps = [] := by
  obtain ⟨middle, delivered, sent, sleeps, left⟩ := preparation.hold_importCertificate
  rw [delivered, hold_deliver_refused (left.trans next) taken refused]
  exact ⟨rfl, by rw [Dialogue.called_sent, sent]; rfl, by rw [Dialogue.called_sleeps, sleeps]⟩

/-- The outcome of an upload that is taken is that of the lookup. -/
theorem taken_tells {uploaded searched : Arrival} {later : List Arrival} {count : Int}
    {records : List CertificateSummary} (next : preparation.rest = uploaded :: searched :: later)
    (taken : Taken uploaded.reply) (settles : manager.sleeper manager.settleDelay = none)
    (told : searched.reply.Tells SearchResult.check 200 ⟨count, records⟩) :
    ((manager.importCertificate session request).on arrivals).1 = match records with
      | [record] => .ok ⟨record.subjectCn, record.id⟩
      | others => .error (.failed (.importInconsistent preparation.fingerprint others.length)) := by
  obtain ⟨middle, delivered, _, _, left⟩ := preparation.hold_importCertificate
  have toCome : (manager.settled (middle.called preparation.upload)).arrivals =
      searched :: later := by
    show (middle.called preparation.upload).arrivals = _
    rw [Dialogue.called_arrivals, left, next]
    rfl
  rw [delivered, hold_deliver_taken (left.trans next) taken settles]
  exact findImported_of_tells toCome told

/-- An import that gives a certificate was taken, and is told of by the search behind it. -/
theorem replies_of_returned {imported : ImportedCertificate}
    (returned : ((manager.importCertificate session request).on arrivals).1 = .ok imported) :
    manager.sleeper manager.settleDelay = none ∧
    ∃ uploaded searched later count record, preparation.rest = uploaded :: searched :: later ∧
      Taken uploaded.reply ∧ searched.reply.Tells SearchResult.check 200 ⟨count, [record]⟩ ∧
        imported = ⟨record.subjectCn, record.id⟩ := by
  obtain ⟨middle, delivered, _, _, left⟩ := preparation.hold_importCertificate
  rw [delivered] at returned
  obtain ⟨settles, uploaded, behind, next, taken⟩ := taken_of_hold_deliver (Prod.ext returned rfl)
  rw [hold_deliver_taken next taken settles] at returned
  obtain ⟨searched, later, count, record, nextToo, told, found⟩ := tells_of_findImported returned
  -- The reply to the search is the one behind that to the upload.
  have toCome : middle.arrivals = uploaded :: searched :: later := by
    have behindSame : (middle.called preparation.upload).arrivals = searched :: later := nextToo
    rw [Dialogue.called_arrivals, next] at behindSame
    rw [next]
    exact congrArg (uploaded :: ·) behindSame
  exact ⟨settles, uploaded, searched, later, count, record, left.symm.trans toCome, taken, told, found⟩

end Preparation

/-- The upload of an import is of one certificate: its encoding, for the application that was found. -/
theorem uploadOf_certificate (manager : Manager) (request : ImportRequest)
    (certificate : X509.Certificate) (applicationId : String) :
    ∃ entry, (manager.uploadOf request certificate applicationId).certificates = [entry] ∧
      Base64.decode? entry.certificate.toList = some certificate.der ∧
        entry.applicationIds = [applicationId] := by
  refine ⟨_, rfl, ?_, rfl⟩
  show Base64.decode? (String.ofList (Base64.encode certificate.der)).toList = _
  rw [String.toList_ofList, Base64.decode?_encode]

/--
An import gives a certificate exactly if its upload is taken and a search then finds that one alone.

It makes one upload, and behind one that is taken it sleeps once and searches once.
The dialogue is cut at the replies to the two calls to show that the sleep lies between them.
A sleeper that refuses the delay ends the import behind its upload.
A reply to the upload that is no success has its failure, and so has a search that finds none or several.
-/
theorem importCertificate_delivers (manager : Manager) (session : Option Session)
    (request : ImportRequest) (arrivals : List Arrival) :
    let held := (manager.importCertificate session request).on arrivals
    (∀ imported, held.1 = .ok imported ↔ manager.sleeper manager.settleDelay = none ∧
      ∃ (preparation : Preparation manager session request arrivals) (uploaded searched : Arrival)
        (later : List Arrival) (count : Int) (record : CertificateSummary),
        preparation.rest = uploaded :: searched :: later ∧ Taken uploaded.reply ∧
          searched.reply.Tells SearchResult.check 200 ⟨count, [record]⟩ ∧
            imported = ⟨record.subjectCns.headD "", record.id⟩) ∧
    (∀ preparation : Preparation manager session request arrivals,
      let cut := ((manager.importCertificate session request).on preparation.replies).2
      (∃ wanted entry, preparation.upload = .upload preparation.account wanted ∧
        wanted.certificates = [entry] ∧
          Base64.decode? entry.certificate.toList = some preparation.certificate.der ∧
            entry.applicationIds = [preparation.applicationId]) ∧
      cut.sent = preparation.lookup ++ [preparation.upload] ∧ cut.sleeps = [] ∧
      ∀ uploaded later, preparation.rest = uploaded :: later →
        (∀ failure, Declined uploaded.reply failure → held.1 = .error (.failed failure) ∧
          held.2.sent = preparation.lookup ++ [preparation.upload] ∧ held.2.sleeps = []) ∧
        (Taken uploaded.reply →
          (manager.sleeper manager.settleDelay = none →
            let cut := ((manager.importCertificate session request).on
              (preparation.replies ++ [uploaded])).2
            let calls := preparation.lookup ++ [preparation.upload, preparation.search]
            cut.sent = calls ∧ cut.sleeps = [manager.settleDelay] ∧
            held.2.sent = calls ∧ held.2.sleeps = [manager.settleDelay] ∧
            ∀ searched others count records, later = searched :: others → records.length ≠ 1 →
              searched.reply.Tells SearchResult.check 200 ⟨count, records⟩ →
                held.1 =
                  .error (.failed (.importInconsistent preparation.fingerprint records.length))) ∧
          ∀ lapse, manager.sleeper manager.settleDelay = some lapse →
            held.1 = .error (.lapsed lapse) ∧
              held.2.sent = preparation.lookup ++ [preparation.upload] ∧ held.2.sleeps = [])) ∧
    ∀ reply,
      Taken reply ∨ (∃ failure, Declined reply failure) ∨ ∃ reason, reply = .abandoned reason := by
  intro held
  refine ⟨fun imported => ⟨fun returned => ?_, ?_⟩, fun preparation => ?_, taken_or_declined⟩
  · obtain ⟨preparation⟩ := Preparation.of_returned returned
    obtain ⟨settles, replies⟩ := preparation.replies_of_returned returned
    exact ⟨settles, preparation, replies⟩
  · rintro ⟨settles, preparation, uploaded, searched, later, count, record, next, taken, told, rfl⟩
    exact preparation.taken_tells next taken settles told
  · -- Without the replies behind its preparation, the import waits for the one to its upload.
    obtain ⟨sent, sleeps⟩ :=
      (preparation.followedBy [] (List.append_nil _).symm).unanswered rfl
    refine ⟨?_, sent, sleeps, fun uploaded later next => ⟨?_, fun taken => ⟨fun settles => ?_,
      fun lapse refused => preparation.taken_lapses next taken refused⟩⟩⟩
    · obtain ⟨entry, only, decoded, destined⟩ := uploadOf_certificate manager request
        preparation.certificate preparation.applicationId
      exact ⟨_, entry, rfl, only, decoded, destined⟩
    · exact fun failure declined => preparation.declined next declined
    · -- With that reply and no other, it waits for the one to its search.
      obtain ⟨sentByThen, sleptByThen⟩ :=
        (preparation.followedBy [uploaded] rfl).taken_searches rfl taken settles
      obtain ⟨sent, sleeps⟩ := preparation.taken_searches next taken settles
      refine ⟨sentByThen, sleptByThen, sent, sleeps, ?_⟩
      rintro searched others count records rfl several told
      refine (preparation.taken_tells next taken settles told).trans ?_
      rcases records with _ | ⟨record, _ | ⟨second, more⟩⟩
      · rfl
      · exact absurd rfl several
      · rfl

/-- A reply that one certificate is taken. -/
def takenReply : Reply := .response ⟨201, "Created",
  Utf8.encode "\x7b\"certificateInformations\":[\x7b\x7d]\x7d"⟩

/-- A reply to a search that finds one certificate. -/
def foundReply : Reply := .response ⟨200, "OK",
  Utf8.encode "\x7b\"certificates\":[\x7b\"id\":\"cert-9\",\"subjectCN\":[\"svc\"]\x7d]\x7d"⟩

theorem taken_takenReply : Taken takenReply := by
  have read : (match readBody UploadReceipt.check
      (Utf8.encode "\x7b\"certificateInformations\":[\x7b\x7d]\x7d") with
    | .valid receipt => receipt.certificates.length == 1
    | .invalid _ => false) = true := by decide +kernel
  split at read
  · next receipt valid =>
    exact ⟨_, receipt, rfl, by decide, by decide, valid, beq_iff_eq.mp read⟩
  · cases read

theorem foundReply_tells : foundReply.Tells SearchResult.check 200
    ⟨0, [{ id := "cert-9", subjectCns := ["svc"] }]⟩ := ⟨_, rfl, rfl, by decide +kernel⟩

theorem readable_bareCertificate :
    X509.Certificate.ofText? (Utf8.encode (bareCertificate 7).text) = some (bareCertificate 7) := by
  refine X509.Certificate.ofText?_text ?_
  unfold X509.Certificate.WellFormed
  decide +kernel

/-- A certificate that is taken and then found is imported, behind one sleep. -/
theorem importCertificate_delivers_bareCertificate :
    let session : Session := ⟨"key", { company := some ⟨"co-1", "Example"⟩ }⟩
    let manager : Manager := ⟨none, .ofInt 2, .ofInt 1, "host", .system⟩
    let request : ImportRequest :=
      { certificateData := (bareCertificate 7).text, applicationId := some "app-1" }
    let arrivals : List Arrival := [⟨.zero, takenReply⟩, ⟨.zero, foundReply⟩]
    let held := (manager.importCertificate (some session) request).on arrivals
    held.1 = .ok ⟨"svc", "cert-9"⟩ ∧ held.2.sent.length = 2 ∧ held.2.sleeps = [.ofInt 1] := by
  intro session manager request arrivals
  let preparation : Preparation manager (some session) request arrivals :=
    ⟨session, rfl, rfl, bareCertificate 7, readable_bareCertificate, [], [], "app-1",
      .given (by decide), _, rfl⟩
  have delivers := importCertificate_delivers manager (some session) request arrivals
  -- What is held is told by the theorem alone, without holding it here.
  generalize (manager.importCertificate (some session) request).on arrivals = held at delivers ⊢
  obtain ⟨returns, prepared, _⟩ := delivers
  obtain ⟨_, _, _, told⟩ := prepared preparation
  have settles : manager.sleeper manager.settleDelay = none := by decide +kernel
  obtain ⟨_, _, sent, sleeps, _⟩ := ((told _ _ rfl).2 taken_takenReply).1 settles
  refine ⟨?_, ?_, sleeps⟩
  · exact (returns _).mpr ⟨settles, preparation, _, _, _, _, _, rfl, taken_takenReply, foundReply_tells, rfl⟩
  · -- The application is given, so that there is no call but the upload and the search.
    have calls : held.2.sent = [preparation.upload, preparation.search] := sent
    rw [calls]
    rfl

end Manager

end Issuance
