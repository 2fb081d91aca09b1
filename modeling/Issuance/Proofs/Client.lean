import Issuance.Proofs.Dialogue
import Issuance.Proofs.Wire
import Issuance.Resolution

/-! Every operation of the client is one call and the reading of its reply. -/

namespace Issuance

/-- No condition of an expression compares with data of more levels than the platform writes. -/
def Expression.Shallow (expression : Expression) : Prop :=
  ∀ value ∈ expression.freeForm, value.levels < Platform.levelLimit

theorem Search.encode_of_shallow {wanted : Search} (shallow : wanted.expression.Shallow) :
    wanted.encode = .ok wanted.payload := Payload.within_of_shallow shallow

/-- A text has one level, so that comparisons with texts are always written. -/
theorem Expression.shallow_of_texts {expression : Expression}
    (texts : ∀ operand ∈ expression.operands, ∃ text, operand.value = .text text) :
    expression.Shallow := by
  intro value compared
  obtain ⟨operand, condition, compared⟩ := List.mem_flatMap.mp compared
  obtain ⟨text, same⟩ := texts operand condition
  obtain rfl : value = .text text := (List.mem_singleton.mp compared).trans same
  exact (by decide : 1 < Platform.levelLimit)

theorem Resolution.shallow_fingerprintSearch (fingerprint : String) :
    (fingerprintSearch fingerprint).expression.Shallow :=
  Expression.shallow_of_texts fun _ condition => by
    rw [List.mem_singleton.mp condition]
    exact ⟨_, rfl⟩

/-- A call by itself teaches its response as it is. -/
theorem Client.hold_send (call : Call) (dialogue : Dialogue) :
    (send call).hold dialogue = (dialogue.learns .ok, dialogue.called call) := by
  -- It is the reading that takes every response for what it is.
  have read := hold_send_read call .ok dialogue
  have taken : (fun response => Run.ofOutcome (.ok response)) =
      (pure : Response → Run Response) := rfl
  rwa [taken, bind_pure] at read

/--
A lookup by name learns of an application exactly when the reply tells it.

Other statuses differ only in the failure they lead to.
-/
theorem Reply.learned_decodeApplication_eq_ok {reply : Reply} {name : String}
    {application : Application} :
    reply.learned (fun response => response.decodeApplication name) = .ok application ↔
      reply.Tells Application.check 200 application := by
  rw [← Reply.learned_decode_eq_ok "application lookup"]
  -- The plain decoding succeeds on the same replies, as it fails on every status but 200.
  cases reply with
  | response found =>
    simp only [learned, answer, Except.bind, Response.decodeApplication]
    by_cases missing : found.status = 400 ∨ found.status = 404
    · have other : found.status ≠ 200 := by omega
      simp [missing, Response.decode, other]
    · by_cases forbidden : found.status = 401
      · simp [forbidden, Response.decode]
      · simp [missing, forbidden]
  | timeout text => rfl
  | broken text => rfl
  | abandoned reason => rfl

/-- A lookup by name learns of an application exactly when the next reply tells it. -/
theorem Dialogue.learns_decodeApplication_eq_ok {dialogue : Dialogue} {name : String}
    {application : Application} :
    dialogue.learns (fun response => response.decodeApplication name) = .ok application ↔
      ∃ arrival rest, dialogue.arrivals = arrival :: rest ∧
        arrival.reply.Tells Application.check 200 application := by
  unfold learns
  -- Without a reply left nothing is learned, and there is nothing that could tell of it.
  cases dialogue.arrivals with
  | nil => simp
  | cons arrival rest => simp [Reply.learned_decodeApplication_eq_ok]

namespace Call

/-- The call that reads from a path with a session's key. -/
def reading (session : Session) (path : String) (parameters : Option Members := none) : Call where
  method := "GET"
  path := path
  apiKey := some session.apiKey
  parameters := parameters

/-- The call that posts data to a path with a session's key. -/
def posting (session : Session) (path : String) (body : Value) : Call where
  method := "POST"
  path := path
  apiKey := some session.apiKey
  body := some body

/-- The call that reads the status of a request. -/
def status (session : Session) (requestId : String) : Call :=
  reading session (Endpoint.certificateRequest requestId)

/-- The call that reads the record of a certificate. -/
def certificate (session : Session) (certificateId : String) : Call :=
  reading session (Endpoint.certificate certificateId)

/-- The call that fetches a certificate with its chain, in an order. -/
def contents (session : Session) (certificateId : String) (order : ChainOrder) : Call :=
  reading session (Endpoint.certificateContents certificateId) (some (Client.chainParameters order))

/-- The call that looks an application up by its name. -/
def application (session : Session) (name : String) : Call :=
  reading session (Endpoint.applicationByName name)

/-- The call that searches certificates. -/
def search (session : Session) (search : Search) : Call :=
  posting session Endpoint.certificateSearch search.payload

/-- The call that looks up the account behind an API key. -/
def account (apiKey : String) : Call where
  method := "GET"
  path := Endpoint.userAccounts
  apiKey := some apiKey

/-- The call that reads the issuing template behind an alias of an application. -/
def template (session : Session) (application templateAlias : String) : Call :=
  reading session (Endpoint.issuingTemplate application templateAlias)

/-- The call that uploads certificates. -/
def upload (session : Session) (upload : Upload) : Call :=
  posting session Endpoint.certificates upload.payload

/-- The call that submits a request. -/
def submission (session : Session) (submission : Submission) : Call :=
  posting session Endpoint.certificateRequests submission.payload

/-- Contents in different orders are asked for by different calls. -/
theorem contents_injective {session : Session} {certificateId : String} {order other : ChainOrder}
    (same : contents session certificateId order = contents session certificateId other) :
    order = other := by
  -- The parameters are all that the two calls could differ in.
  have words : order.word = other.word := by
    simpa [contents, reading, Client.chainParameters] using congrArg Call.parameters same
  cases order <;> cases other <;> first | rfl | exact absurd words (by decide)

/-- Reading a status is not asking for contents. -/
theorem status_ne_contents {session : Session} {requestId certificateId : String}
    {order : ChainOrder} : status session requestId ≠ contents session certificateId order := by
  intro same
  -- A status is read without parameters.
  cases congrArg Call.parameters same

/-- A call that asks for a certificate to be issued. -/
def Submits (call : Call) : Prop :=
  call.method = "POST" ∧ call.path = Endpoint.certificateRequests

/-- Reading a path submits nothing. -/
theorem not_submits_reading (session : Session) (path : String) (parameters : Option Members) :
    ¬ (reading session path parameters).Submits :=
  fun submits => absurd submits.1 (by decide : ("GET" : String) ≠ "POST")

theorem not_submits_status (session : Session) (requestId : String) :
    ¬ (status session requestId).Submits := not_submits_reading session _ none

theorem not_submits_certificate (session : Session) (certificateId : String) :
    ¬ (certificate session certificateId).Submits := not_submits_reading session _ none

/-- A search is posted to a path of its own, so it submits nothing either. -/
theorem not_submits_search (session : Session) (wanted : Search) :
    ¬ (search session wanted).Submits :=
  fun submits => absurd submits.2
    (by decide : Endpoint.certificateSearch ≠ Endpoint.certificateRequests)

end Call

namespace Client

variable (session : Session) (dialogue : Dialogue)

theorem hold_account (apiKey : String) :
    (account apiKey).hold dialogue =
      (dialogue.learns Response.decodeAccount, dialogue.called (.account apiKey)) :=
  hold_send_read (.account apiKey) _ dialogue

theorem hold_issuingTemplate (application templateAlias : String) :
    (issuingTemplate session application templateAlias).hold dialogue =
      (dialogue.learns fun response =>
          response.decode IssuingTemplate.check "issuing template lookup",
        dialogue.called (.template session application templateAlias)) :=
  hold_send_read (.template session application templateAlias) _ dialogue

theorem hold_upload (wanted : Upload) :
    (upload session wanted).hold dialogue =
      (dialogue.learns .ok, dialogue.called (.upload session wanted)) :=
  hold_send (.upload session wanted) dialogue

theorem hold_status (requestId : String) :
    (status session requestId).hold dialogue =
      (dialogue.learns fun response =>
          response.decode RequestStatus.check "certificate request status",
        dialogue.called (.status session requestId)) :=
  hold_send_read (.status session requestId) _ dialogue

theorem hold_certificate (certificateId : String) :
    (certificate session certificateId).hold dialogue =
      (dialogue.learns fun response =>
          response.decode ManagedCertificate.check "certificate lookup",
        dialogue.called (.certificate session certificateId)) :=
  hold_send_read (.certificate session certificateId) _ dialogue

theorem hold_application (name : String) :
    (application session name).hold dialogue =
      (dialogue.learns fun response => response.decodeApplication name,
        dialogue.called (.application session name)) :=
  hold_send_read (.application session name) _ dialogue

/-- A search is one call, if its conditions are shallow. -/
theorem hold_search {wanted : Search} (shallow : wanted.expression.Shallow) :
    (search session wanted).hold dialogue =
      (dialogue.learns fun response => response.decode SearchResult.check "certificate search",
        dialogue.called (.search session wanted)) := by
  unfold search
  rw [Search.encode_of_shallow shallow]
  exact hold_send_read (.search session wanted) _ dialogue

theorem hold_submit (submission : Submission) :
    (submit session submission).hold dialogue =
      (dialogue.learns fun response =>
          response.decode SubmissionReceipt.check "certificate request" 201,
        dialogue.called (.submission session submission)) :=
  hold_send_read (.submission session submission) _ dialogue

theorem hold_contents (certificateId : String) (order : ChainOrder) :
    (contents session certificateId (some order)).hold dialogue =
      (dialogue.learns .ok, dialogue.called (.contents session certificateId order)) :=
  hold_send (.contents session certificateId order) dialogue

end Client

end Issuance
