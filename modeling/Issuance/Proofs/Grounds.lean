import Issuance.Proofs.Writes

/-! What a run can end with: a value, a stop that rests on what was told last or given, or a call that is not answered. -/

namespace Issuance

/-- All calls of a dialogue so far have been answered by responses, out of the replies at its start. -/
structure Dialogue.Answered (arrivals : List Arrival) (dialogue : Dialogue) : Prop where
  left : dialogue.arrivals = arrivals.drop dialogue.sent.length
  answered : ∀ position < dialogue.sent.length, ({ arrivals } : Dialogue).Answers position

/-- The response to the last of some calls. -/
def Told (arrivals : List Arrival) (sent : List Call) (call : Call) (response : Response) : Prop :=
  ∃ calls arrival, sent = calls ++ [call] ∧ arrivals[calls.length]? = some arrival ∧
    arrival.reply = .response response

/-- What a call comes to without a response: the connection has failed, but an upload finds no service. -/
inductive Call.Misses (call : Call) : Reply → Stop → Prop
  | timeout (text : String) (other : ¬ call.Uploads) : Misses call (.timeout text)
      (.failed (.connection ⟨"Request to certificate service timed out", some text⟩))
  | broken (text : String) (other : ¬ call.Uploads) : Misses call (.broken text)
      (.failed (.connection ⟨"Failed to connect to certificate service", some text⟩))
  | uploadTimeout (text : String) (uploads : call.Uploads) : Misses call (.timeout text)
      (.failed (.refused .unavailable
        ⟨"Certificate service temporarily unavailable", some text⟩ {}))
  | uploadBroken (text : String) (uploads : call.Uploads) : Misses call (.broken text)
      (.failed (.refused .unavailable
        ⟨"Certificate service temporarily unavailable", some text⟩ {}))
  | abandoned (reason : String) : Misses call (.abandoned reason) (.abandoned reason)

/-- The last of some calls has no response, and that is what has ended the run. -/
def Missed (arrivals : List Arrival) (sent : List Call) (stop : Stop) : Prop :=
  ∃ calls call, sent = calls ++ [call] ∧
    (∀ position < calls.length, ({ arrivals } : Dialogue).Answers position) ∧
    ((arrivals[calls.length]? = none ∧ stop = .unanswered) ∨
      ∃ arrival, arrivals[calls.length]? = some arrival ∧ call.Misses arrival.reply stop)

/-- How a run ends: with a value that something is known of, on grounds for its stop, or unanswered. -/
inductive Run.Ending {α : Type} (arrivals : List Arrival) (grounds : List Call → Stop → Prop)
    (post : α → List Call → Prop) : Except Stop α → Dialogue → Prop
  | given {value : α} {later : Dialogue} (answered : later.Answered arrivals)
      (known : post value later.sent) : Ending arrivals grounds post (.ok value) later
  | stopped {stop : Stop} {later : Dialogue} (answered : later.Answered arrivals)
      (founded : grounds later.sent stop) : Ending arrivals grounds post (.error stop) later
  | missed {stop : Stop} {later : Dialogue} (missed : Missed arrivals later.sent stop) :
      Ending arrivals grounds post (.error stop) later

/-- Behind calls that have all been answered, a run ends in one of the ways there are. -/
structure Run.Closes {α : Type} (run : Run α) (arrivals : List Arrival)
    (grounds : List Call → Stop → Prop) (sent : List Call) (post : α → List Call → Prop) :
    Prop where
  closed : ∀ {dialogue}, dialogue.sent = sent → dialogue.Answered arrivals →
    Run.Ending arrivals grounds post (run.hold dialogue).1 (run.hold dialogue).2

namespace Run.Closes

variable {α β : Type} {arrivals : List Arrival} {grounds : List Call → Stop → Prop}
  {sent : List Call} {post : α → List Call → Prop}

/-- What neither sends nor takes anything, and gives a value, leaves the calls as they are. -/
theorem of_silent {run : Run α} (silent : ∀ dialogue, ∃ value, (run.hold dialogue).1 = .ok value ∧
      (run.hold dialogue).2.sent = dialogue.sent ∧
      (run.hold dialogue).2.arrivals = dialogue.arrivals ∧ post value dialogue.sent) :
    run.Closes arrivals grounds sent post := by
  constructor
  intro dialogue _ answered
  obtain ⟨value, given, same, left, known⟩ := silent dialogue
  rw [given]
  refine .given ⟨?_, ?_⟩ ?_
  · rw [left, same]
    exact answered.left
  · rw [same]
    exact answered.answered
  · rw [same]
    exact known

theorem pure {value : α} (known : post value sent) :
    (Pure.pure value : Run α).Closes arrivals grounds sent post := by
  constructor
  rintro dialogue rfl answered
  exact .given answered known

theorem log (level : Level) (event : String) (fields : Members) :
    (Run.log level event fields).Closes arrivals grounds sent fun _ later => later = sent := by
  constructor
  rintro dialogue rfl answered
  exact .given ⟨answered.left, answered.answered⟩ rfl

/-- A sleep is taken, or the sleeper has to be in order to refuse it. -/
theorem sleep {sleeper : Sleeper} {seconds : Double}
    (founded : ∀ lapse, sleeper seconds = some lapse → grounds sent (.lapsed lapse)) :
    (Run.sleep sleeper seconds).Closes arrivals grounds sent fun _ later => later = sent := by
  constructor
  rintro dialogue rfl answered
  cases refusal : sleeper seconds with
  | some lapse =>
    rw [hold_sleep_refused refusal]
    exact .stopped answered (founded lapse refusal)
  | none =>
    rw [hold_sleep_taken refusal]
    exact .given ⟨answered.left, answered.answered⟩ rfl

theorem recordPickup (pickupId : String) :
    (Run.recordPickup pickupId).Closes arrivals grounds sent fun _ later => later = sent := by
  constructor
  rintro dialogue rfl answered
  exact .given ⟨answered.left, answered.answered⟩ rfl

/-- What the dialogue shows by now is that it has come by the calls, out of the replies at its start. -/
theorem get : (MonadState.get : Run Dialogue).Closes arrivals grounds sent fun dialogue later =>
    later = sent ∧ dialogue.sent = sent ∧ dialogue.Answered arrivals := by
  constructor
  rintro dialogue rfl answered
  exact .given answered ⟨rfl, rfl, answered⟩

theorem fail {failure : Failure} (founded : grounds sent (.failed failure)) :
    (Run.fail failure : Run α).Closes arrivals grounds sent post := by
  constructor
  rintro dialogue rfl answered
  exact .stopped answered founded

theorem ofOutcome {outcome : Outcome α} (known : ∀ value, outcome = .ok value → post value sent)
    (founded : ∀ failure, outcome = .error failure → grounds sent (.failed failure)) :
    (Run.ofOutcome outcome).Closes arrivals grounds sent post := by
  cases outcome with
  | ok value => exact .pure (known value rfl)
  | error failure => exact .fail (founded failure rfl)

/-- A run in two parts ends as its first part does, or as the second does behind that. -/
theorem bind {run : Run α} {next : α → Run β} {final : β → List Call → Prop}
    (first : run.Closes arrivals grounds sent post)
    (second : ∀ value later, post value later →
      (next value).Closes arrivals grounds later final) :
    (run >>= next).Closes arrivals grounds sent final := by
  constructor
  intro dialogue same answered
  have ending := first.closed same answered
  rw [hold_bind]
  cases held : run.hold dialogue with
  | mk outcome later =>
    rw [held] at ending
    -- Only a value leaves something to go on with.
    cases ending with
    | given answered known => exact (second _ _ known).closed rfl answered
    | stopped answered founded => exact .stopped answered founded
    | missed missed => exact .missed missed

/-- Where nothing has to be known of the first part's value, the second goes on with any. -/
theorem andThen {run : Run α} {next : α → Run β} {final : β → List Call → Prop}
    (first : run.Closes arrivals grounds sent fun _ _ => True)
    (second : ∀ value later, (next value).Closes arrivals grounds later final) :
    (run >>= next).Closes arrivals grounds sent final :=
  first.bind fun value later _ => second value later

theorem mono {run : Run α} {final : α → List Call → Prop}
    (closes : run.Closes arrivals grounds sent post)
    (weaker : ∀ value later, post value later → final value later) :
    run.Closes arrivals grounds sent final := by
  constructor
  intro dialogue same answered
  have ending := closes.closed same answered
  generalize (run.hold dialogue).1 = outcome at ending ⊢
  cases ending with
  | given answered known => exact .given answered (weaker _ _ known)
  | stopped answered founded => exact .stopped answered founded
  | missed missed => exact .missed missed

/-- Grounds that are wider are grounds all the same. -/
theorem regard {run : Run α} {wider : List Call → Stop → Prop}
    (closes : run.Closes arrivals grounds sent post)
    (regarded : ∀ later stop, grounds later stop → wider later stop) :
    run.Closes arrivals wider sent post := by
  constructor
  intro dialogue same answered
  have ending := closes.closed same answered
  generalize (run.hold dialogue).1 = outcome at ending ⊢
  cases ending with
  | given answered known => exact .given answered known
  | stopped answered founded => exact .stopped answered (regarded _ _ founded)
  | missed missed => exact .missed missed

/-- What is logged before the rest makes no difference to it. -/
theorem log_bind {level : Level} {event : String} {fields : Members} {next : Unit → Run β}
    {final : β → List Call → Prop}
    (second : (next ()).Closes arrivals grounds sent final) :
    (Run.log level event fields >>= next).Closes arrivals grounds sent final := by
  refine (log level event fields).bind fun _ later same => ?_
  rw [same]
  exact second

/-- What the platform gives is gone on with, and what it refuses has to be in order. -/
theorem ofPlatform_bind {given : Except Lapse α} {next : α → Run β} {final : β → List Call → Prop}
    (second : ∀ value, given = .ok value → (next value).Closes arrivals grounds sent final)
    (founded : ∀ lapse, given = .error lapse → grounds sent (.lapsed lapse)) :
    (Run.ofPlatform given >>= next).Closes arrivals grounds sent final := by
  cases given with
  | ok value => exact second value rfl
  | error lapse =>
    constructor
    rintro dialogue rfl answered
    exact .stopped answered (founded lapse rfl)

theorem ofOutcome_bind {outcome : Outcome α} {next : α → Run β} {final : β → List Call → Prop}
    (second : ∀ value, outcome = .ok value → (next value).Closes arrivals grounds sent final)
    (founded : ∀ failure, outcome = .error failure → grounds sent (.failed failure)) :
    (Run.ofOutcome outcome >>= next).Closes arrivals grounds sent final := by
  cases outcome with
  | ok value => exact second value rfl
  | error failure => exact .fail (founded failure rfl)

/-- A session that is there is gone on with. -/
theorem present_bind {session : Session} {next : Session → Run β} {final : β → List Call → Prop}
    (second : (next session).Closes arrivals grounds sent final) :
    (Run.present (some session) >>= next).Closes arrivals grounds sent final := by
  show ((Pure.pure session : Run Session) >>= next).Closes arrivals grounds sent final
  rw [pure_bind]
  exact second

/-- What a value is mapped to makes no difference to how a run ends. -/
theorem map (f : α → β) {run : Run α} (closes : run.Closes arrivals grounds sent post) :
    (f <$> run).Closes arrivals grounds sent fun _ _ => True := by
  rw [map_eq_pure_bind]
  exact closes.bind fun _ _ _ => .pure trivial

end Run.Closes

/-- A call behind answered ones is answered as well, or it is the last. -/
theorem Dialogue.Answered.called {arrivals : List Arrival} {dialogue : Dialogue}
    (answered : dialogue.Answered arrivals) (call : Call) :
    (∃ response, dialogue.learns .ok = .ok response ∧ (dialogue.called call).Answered arrivals ∧
      Told arrivals (dialogue.sent ++ [call]) call response) ∨
    (arrivals[dialogue.sent.length]? = none ∧ dialogue.learns .ok = .error .unanswered) ∨
    ∃ arrival stop, arrivals[dialogue.sent.length]? = some arrival ∧
      arrival.reply.answer = .error stop ∧ dialogue.learns .ok = .error stop := by
  have next : arrivals[dialogue.sent.length]? = dialogue.arrivals.head? := by
    rw [answered.left, List.head?_drop]
  cases left : dialogue.arrivals with
  | nil =>
    rw [left] at next
    exact .inr (.inl ⟨next, by rw [learns, left]⟩)
  | cons arrival rest =>
    rw [left] at next
    have learned := learns_cons left (.ok : Response → Outcome Response)
    cases replied : arrival.reply.answer with
    | error stop =>
      refine .inr (.inr ⟨arrival, stop, next, replied, ?_⟩)
      rw [learned, Reply.learned, replied]
      rfl
    | ok response =>
      have response_eq : arrival.reply = .response response := by
        cases reply : arrival.reply <;> rw [reply] at replied <;> cases replied
        rfl
      refine .inl ⟨response, ?_, ⟨?_, ?_⟩, ⟨_, arrival, rfl, next, response_eq⟩⟩
      · rw [learned, Reply.learned, replied]
        rfl
      · rw [called_arrivals, called_sent, answered.left, List.tail_drop, List.length_append]
        rfl
      · intro position early
        rw [called_sent, List.length_append, List.length_singleton] at early
        -- The last position is that of the call, and all others have been answered before it.
        rcases Nat.lt_succ_iff_lt_or_eq.mp early with before | rfl
        · exact answered.answered position before
        · exact ⟨arrival, response, next, response_eq⟩

/-- What ends a call without a response is what the call misses. -/
theorem Call.misses_of_answer {call : Call} (other : ¬ call.Uploads) {reply : Reply} {stop : Stop}
    (stopped : reply.answer = .error stop) : call.Misses reply stop := by
  cases reply <;> cases stopped
  · exact .timeout _ other
  · exact .broken _ other
  · exact .abandoned _

theorem Call.misses_of_uploadLearned {call : Call} (uploads : call.Uploads) {reply : Reply}
    {stop : Stop} (stopped : reply.answer = .error stop) :
    ∃ final, Manager.uploadLearned (.error stop) = .error final ∧ call.Misses reply final := by
  cases reply <;> cases stopped
  · exact ⟨_, rfl, .uploadTimeout _ uploads⟩
  · exact ⟨_, rfl, .uploadBroken _ uploads⟩
  · exact ⟨_, rfl, .abandoned _⟩

/-- A call that uploads nothing is told a response, which is read as a value or is grounds for a failure. -/
theorem Run.Closes.of_read {α : Type} {run : Run α} {call : Call} {read : Response → Outcome α}
    {arrivals : List Arrival} {grounds : List Call → Stop → Prop} {sent : List Call}
    (held : ∀ dialogue, run.hold dialogue = (dialogue.learns read, dialogue.called call))
    (other : ¬ call.Uploads)
    (founded : ∀ response failure, Told arrivals (sent ++ [call]) call response →
      read response = .error failure → grounds (sent ++ [call]) (.failed failure)) :
    run.Closes arrivals grounds sent fun value later => later = sent ++ [call] ∧
      ∃ response, Told arrivals later call response ∧ read response = .ok value := by
  constructor
  rintro dialogue rfl answered
  rw [held, Dialogue.learns_eq_bind]
  have through := dialogue.called_sent call
  rcases answered.called call with ⟨response, learned, behind, told⟩ | ⟨none, learned⟩ |
    ⟨arrival, stop, place, stopped, learned⟩
  · rw [learned]
    -- With a response, it is the reading that decides.
    cases reading : read response with
    | ok value =>
      simp only [Except.bind, reading, Outcome.mapError_ok]
      refine .given behind ⟨through, response, ?_, reading⟩
      rw [through]
      exact told
    | error failure =>
      simp only [Except.bind, reading, Outcome.mapError_error]
      refine .stopped behind ?_
      rw [through]
      exact founded response failure told reading
  · rw [learned]
    refine .missed ⟨dialogue.sent, call, through, answered.answered, .inl ⟨none, rfl⟩⟩
  · rw [learned]
    exact .missed ⟨dialogue.sent, call, through, answered.answered,
      .inr ⟨arrival, place, Call.misses_of_answer other stopped⟩⟩

/-- How the body of the response to a call is read, if the status is one of those for it. -/
inductive Call.ReadAs : Call → {α : Type} → Check α → (Int → Prop) → String → Prop
  | account (apiKey : String) :
      ReadAs (.account apiKey) Account.check (· = 200) "user account lookup"
  | application (session : Session) (name : String) :
      ReadAs (.application session name) Application.check (· = 200) "application lookup"
  | template (session : Session) (application templateAlias : String) :
      ReadAs (.template session application templateAlias) IssuingTemplate.check (· = 200)
        "issuing template lookup"
  | submission (session : Session) (submission : Submission) :
      ReadAs (.submission session submission) SubmissionReceipt.check (· = 201)
        "certificate request"
  | status (session : Session) (requestId : String) :
      ReadAs (.status session requestId) RequestStatus.check (· = 200) "certificate request status"
  | certificate (session : Session) (certificateId : String) :
      ReadAs (.certificate session certificateId) ManagedCertificate.check (· = 200)
        "certificate lookup"
  | search (session : Session) (wanted : Search) :
      ReadAs (.search session wanted) SearchResult.check (· = 200) "certificate search"
  | upload (session : Session) (wanted : Upload) :
      ReadAs (.upload session wanted) UploadReceipt.check (fun status => 200 ≤ status ∧ status < 300)
        "certificate import"

/-- A call that fetches certificates: one by itself, or one with its chain. -/
def Call.Fetches (call : Call) : Prop :=
  ∃ session certificateId parameters,
    call = .reading session (Endpoint.certificateContents certificateId) parameters

/-- The failures of decoding that are found in the last response. -/
inductive Unread (arrivals : List Arrival) (sent : List Call) : Failure → Prop
  /-- The body does not pass the check of the call. -/
  | body {call : Call} {response : Response} {α : Type} {check : Check α} {statuses : Int → Prop}
      {operation : String} {faults : List Fault} (told : Told arrivals sent call response)
      (read : call.ReadAs check statuses operation) (status : statuses response.status)
      (invalid : readBody check response.body = .invalid faults) :
      Unread arrivals sent (.decoding ⟨"Failed to parse " ++ operation ++ " response", none⟩ faults)
  /-- The body is no text of certificates. -/
  | chain {call : Call} {response : Response} (told : Told arrivals sent call response)
      (fetches : call.Fetches) (status : response.status = 200)
      (unreadable : PemCollection.ofText? response.body = none) :
      Unread arrivals sent (.decoding ⟨"Failed to parse certificate PEM data", none⟩ [])
  /-- The status is that of a request which has been issued, but lists no certificate. -/
  | issued {session : Session} {requestId : String} {response : Response} {status : RequestStatus}
      (told : Told arrivals sent (.status session requestId) response)
      (success : response.status = 200)
      (read : readBody RequestStatus.check response.body = .valid status)
      (issued : status.state = .issued) (nothing : status.certificateId = "") :
      Unread arrivals sent
        (.decoding ⟨"Certificate request is ISSUED but lists no certificate", some requestId⟩ [])

/-- The failures that are neither of the connection nor of decoding. -/
def Failure.Plain (failure : Failure) : Prop :=
  (∀ note, failure ≠ .connection note) ∧ ∀ note faults, failure ≠ .decoding note faults

/-- What a run stops for: the last response, what its caller has given, or what is in order to be refused. -/
inductive Founded (arrivals : List Arrival) (own : List Call → Stop → Prop) (sent : List Call) :
    Stop → Prop
  | plain {failure : Failure} (plain : failure.Plain) : Founded arrivals own sent (.failed failure)
  | unread {failure : Failure} (unread : Unread arrivals sent failure) :
      Founded arrivals own sent (.failed failure)
  | own {stop : Stop} (given : own sent stop) : Founded arrivals own sent stop

/-- Whether a failure is neither of the connection nor of decoding. -/
def Failure.isPlain : Failure → Bool
  | .connection _ | .decoding .. => false
  | _ => true

/-- A failure that is neither of the connection nor of decoding is in order. -/
theorem Founded.of_isPlain {arrivals : List Arrival} {own : List Call → Stop → Prop}
    {sent : List Call} {failure : Failure} (told : failure.isPlain = true) :
    Founded arrivals own sent (.failed failure) := by
  refine .plain ⟨?_, ?_⟩
  · rintro note rfl
    cases told
  · rintro note faults rfl
    cases told

/-- What a caller has given is regarded as something more particular. -/
theorem Founded.regard {arrivals : List Arrival} {own wider : List Call → Stop → Prop}
    {sent : List Call} {stop : Stop} (founded : Founded arrivals own sent stop)
    (regarded : own sent stop → wider sent stop) : Founded arrivals wider sent stop := by
  cases founded with
  | plain plain => exact .plain plain
  | unread unread => exact .unread unread
  | own given => exact .own (regarded given)

section Reading

variable {arrivals : List Arrival} {own : List Call → Stop → Prop} {sent : List Call}
  {call : Call} {response : Response} {failure : Failure}

/-- A response is refused for its status, or its body is not read as it is to be. -/
theorem Response.founded_of_decode {α : Type} {check : Check α} {operation : String}
    {expected : Int} (told : Told arrivals sent call response)
    (read : call.ReadAs check (· = expected) operation)
    (failed : response.decode check operation expected = .error failure) :
    Founded arrivals own sent (.failed failure) := by
  unfold decode decodeBody at failed
  split at failed
  · next status =>
    split at failed
    · cases failed
    · next faults invalid =>
      cases failed
      exact .unread (.body told read status invalid)
  · cases failed
    exact .of_isPlain rfl

theorem Response.founded_of_decodeAccount {apiKey : String}
    (told : Told arrivals sent (.account apiKey) response)
    (failed : response.decodeAccount = .error failure) : Founded arrivals own sent (.failed failure) := by
  unfold decodeAccount at failed
  split at failed
  · cases failed
    exact .of_isPlain rfl
  · exact founded_of_decode told (.account apiKey) failed

theorem Response.founded_of_decodeApplication {session : Session} {name : String}
    (told : Told arrivals sent (.application session name) response)
    (failed : response.decodeApplication name = .error failure) :
    Founded arrivals own sent (.failed failure) := by
  unfold decodeApplication at failed
  -- Two of the statuses say more than that they are not the one for success.
  split at failed
  · cases failed
    exact .of_isPlain rfl
  · split at failed
    · cases failed
      exact .of_isPlain rfl
    · exact founded_of_decode told (.application session name) failed

end Reading

namespace Client

variable {arrivals : List Arrival} {own : List Call → Stop → Prop} {sent : List Call}
  (session : Session)

/-- Reading submits and uploads nothing. -/
theorem not_uploads_of_method {call : Call} (read : call.method = "GET") : ¬ call.Uploads :=
  fun uploads => Call.not_writes_of_method read (.inr uploads)

theorem closes_account (apiKey : String) :
    (account apiKey).Closes arrivals (Founded arrivals own) sent fun _ _ => True :=
  (Run.Closes.of_read (hold_account · apiKey) (not_uploads_of_method rfl) fun _ _ told failed =>
    Response.founded_of_decodeAccount told failed).mono fun _ _ _ => trivial

theorem closes_application (name : String) :
    (application session name).Closes arrivals (Founded arrivals own) sent fun _ _ => True :=
  (Run.Closes.of_read (hold_application session · name) (not_uploads_of_method rfl)
    fun _ _ told failed => Response.founded_of_decodeApplication told failed).mono
    fun _ _ _ => trivial

theorem closes_issuingTemplate (application templateAlias : String) :
    (issuingTemplate session application templateAlias).Closes arrivals (Founded arrivals own) sent
      fun _ _ => True :=
  (Run.Closes.of_read (hold_issuingTemplate session · application templateAlias)
    (not_uploads_of_method rfl) fun _ _ told failed =>
      Response.founded_of_decode told (.template session application templateAlias) failed).mono
    fun _ _ _ => trivial

theorem closes_submit (submission : Submission) :
    (submit session submission).Closes arrivals (Founded arrivals own) sent fun _ _ => True :=
  (Run.Closes.of_read (hold_submit session · submission)
    (fun uploads => absurd uploads.2
      (by decide +kernel : Endpoint.certificateRequests ≠ Endpoint.certificates))
    fun _ _ told failed => Response.founded_of_decode told (.submission session submission) failed).mono
    fun _ _ _ => trivial

/-- The status that is read is the one that the response tells. -/
theorem closes_status (requestId : String) :
    (status session requestId).Closes arrivals (Founded arrivals own) sent fun status later =>
      later = sent ++ [.status session requestId] ∧
        ∃ response, Told arrivals later (.status session requestId) response ∧
          response.status = 200 ∧ readBody RequestStatus.check response.body = .valid status := by
  refine (Run.Closes.of_read (hold_status session · requestId) (not_uploads_of_method rfl)
    fun _ _ told failed => Response.founded_of_decode told (.status session requestId) failed).mono ?_
  intro status later known
  obtain ⟨same, response, told, decoded⟩ := known
  exact ⟨same, response, told, Response.decode_eq_ok.mp decoded⟩

theorem closes_certificate (certificateId : String) :
    (certificate session certificateId).Closes arrivals (Founded arrivals own) sent
      fun _ _ => True :=
  (Run.Closes.of_read (hold_certificate session · certificateId) (not_uploads_of_method rfl)
    fun _ _ told failed =>
      Response.founded_of_decode told (.certificate session certificateId) failed).mono
    fun _ _ _ => trivial

theorem closes_search {wanted : Search} (shallow : wanted.expression.Shallow) :
    (search session wanted).Closes arrivals (Founded arrivals own) sent fun _ _ => True :=
  (Run.Closes.of_read (hold_search session · shallow)
    (fun uploads => Call.not_writes_search session wanted.payload (.inr uploads))
    fun _ _ told failed => Response.founded_of_decode told (.search session wanted) failed).mono
    fun _ _ _ => trivial

/-- What is fetched is the response as it is. -/
theorem closes_contents (certificateId : String) (order : Option ChainOrder) :
    (contents session certificateId order).Closes arrivals (Founded arrivals own) sent
      fun response later => ∃ call, call.Fetches ∧ Told arrivals later call response := by
  have held (dialogue : Dialogue) : (contents session certificateId order).hold dialogue =
      (dialogue.learns .ok, dialogue.called (.reading session
        (Endpoint.certificateContents certificateId) (order.map chainParameters))) :=
    hold_send _ dialogue
  refine (Run.Closes.of_read held (not_uploads_of_method rfl)
    fun _ _ _ failed => by cases failed).mono ?_
  intro response later known
  obtain ⟨_, _, told, same⟩ := known
  cases same
  exact ⟨_, ⟨session, certificateId, _, rfl⟩, told⟩

/-- An upload that no response answers tells of a service that cannot be used. -/
theorem closes_upload (wanted : Upload) :
    (Manager.upload session wanted).Closes arrivals (Founded arrivals own) sent
      fun response later => Told arrivals later (.upload session wanted) response := by
  have uploads : (Call.upload session wanted).Uploads := ⟨rfl, rfl⟩
  constructor
  rintro dialogue rfl answered
  rw [Manager.hold_upload]
  have through := dialogue.called_sent (.upload session wanted)
  rcases answered.called (.upload session wanted) with ⟨response, learned, behind, told⟩ |
    ⟨none, learned⟩ | ⟨arrival, stop, place, stopped, learned⟩
  · rw [learned]
    refine .given behind ?_
    rw [through]
    exact told
  · rw [learned]
    exact .missed ⟨dialogue.sent, _, through, answered.answered, .inl ⟨none, rfl⟩⟩
  · rw [learned]
    obtain ⟨final, told, misses⟩ := Call.misses_of_uploadLearned uploads stopped
    rw [told]
    exact .missed ⟨dialogue.sent, _, through, answered.answered, .inr ⟨arrival, place, misses⟩⟩

end Client

end Issuance
