import Issuance.Lifecycle.Ledger
import Issuance.Proofs.Import

/-! The API key of a session goes into the header of its calls, and makes no difference to anything else. -/

namespace Issuance

/-- A session of the same account with another API key. -/
def Session.withKey (session : Session) (apiKey : String) : Session := { session with apiKey }

/-- The same call with another API key. -/
def Call.withKey (call : Call) (apiKey : String) : Call := { call with apiKey := some apiKey }

/-- The same dialogue, but that all its calls were made with another API key. -/
def Dialogue.withKey (dialogue : Dialogue) (apiKey : String) : Dialogue :=
  { dialogue with sent := dialogue.sent.map (·.withKey apiKey) }

/-- The same desk with another API key in its session, if there is one. -/
def Desk.withKey (desk : Desk) (apiKey : String) : Desk :=
  { desk with session := desk.session.map (·.withKey apiKey) }

/-- A call with another key is followed by what follows the call itself. -/
theorem Dialogue.called_withKey (dialogue : Dialogue) (call : Call) (apiKey : String) :
    (dialogue.withKey apiKey).called (call.withKey apiKey) =
      (dialogue.called call).withKey apiKey := by
  rcases dialogue with ⟨arrivals, clock, sent, sleeps, log, recorded⟩
  have joined : sent.map (·.withKey apiKey) ++ [call.withKey apiKey] =
      (sent ++ [call]).map (·.withKey apiKey) := by
    rw [List.map_append, List.map_singleton]
  -- The key is among what was sent, and neither the reply nor the log of a call tells it.
  rcases arrivals with _ | ⟨⟨delay, reply⟩, rest⟩
  · exact congrArg (Dialogue.mk [] clock · sleeps _ recorded) joined
  · cases reply <;>
      exact congrArg (Dialogue.mk rest (clock + delay) · sleeps _ recorded) joined

/-- From dialogues that differ in their keys alone, two runs come to the same and to such dialogues. -/
structure Run.Rekeys {α : Type} (apiKey : String) (run other : Run α) : Prop where
  held : ∀ dialogue, other.hold (dialogue.withKey apiKey) =
    ((run.hold dialogue).1, (run.hold dialogue).2.withKey apiKey)

namespace Run.Rekeys

variable {α β : Type} {apiKey : String}

theorem pure (value : α) : Rekeys apiKey (Pure.pure value : Run α) (Pure.pure value) :=
  ⟨fun _ => rfl⟩

theorem fail (failure : Failure) : Rekeys apiKey (Run.fail failure : Run α) (Run.fail failure) :=
  ⟨fun _ => rfl⟩

theorem throw (stop : Stop) :
    Rekeys apiKey (MonadExcept.throw stop : Run α) (MonadExcept.throw stop) := ⟨fun _ => rfl⟩

theorem log (level : Level) (event : String) (fields : Members) :
    Rekeys apiKey (Run.log level event fields) (Run.log level event fields) := ⟨fun _ => rfl⟩

theorem sleep (sleeper : Sleeper) (seconds : Double) :
    Rekeys apiKey (Run.sleep sleeper seconds) (Run.sleep sleeper seconds) := by
  unfold Run.sleep
  split
  · exact throw _
  · exact ⟨fun _ => rfl⟩

theorem recordPickup (pickupId : String) :
    Rekeys apiKey (Run.recordPickup pickupId) (Run.recordPickup pickupId) := ⟨fun _ => rfl⟩

theorem ofOutcome (outcome : Outcome α) :
    Rekeys apiKey (Run.ofOutcome outcome) (Run.ofOutcome outcome) := by
  constructor
  intro dialogue
  rw [hold_ofOutcome, hold_ofOutcome]

theorem ofPlatform (given : Except Lapse α) :
    Rekeys apiKey (Run.ofPlatform given) (Run.ofPlatform given) := by
  constructor
  intro dialogue
  rw [hold_ofPlatform, hold_ofPlatform]

/-- Two calls that differ in their keys alone are answered by one reply, and read alike. -/
theorem of_call {run other : Run α} {call : Call} {learned : Dialogue → Except Stop α}
    (alike : ∀ dialogue, learned (dialogue.withKey apiKey) = learned dialogue)
    (held : ∀ dialogue, run.hold dialogue = (learned dialogue, dialogue.called call))
    (heldToo : ∀ dialogue, other.hold dialogue =
      (learned dialogue, dialogue.called (call.withKey apiKey))) : Rekeys apiKey run other := by
  constructor
  intro dialogue
  rw [held, heldToo, alike, Dialogue.called_withKey]

theorem bind {run other : Run α} {next after : α → Run β} (first : Rekeys apiKey run other)
    (second : ∀ value, Rekeys apiKey (next value) (after value)) :
    Rekeys apiKey (run >>= next) (other >>= after) := by
  constructor
  intro dialogue
  rw [hold_bind, hold_bind, first.held]
  -- Both first parts stop, or both go on with one value.
  rcases run.hold dialogue with ⟨stop | value, middle⟩
  · rfl
  · exact (second value).held middle

theorem map (f : α → β) {run other : Run α} (rekeys : Rekeys apiKey run other) :
    Rekeys apiKey (f <$> run) (f <$> other) := by
  constructor
  intro dialogue
  rw [hold_map, hold_map, rekeys.held]

/-- What looks at the dialogue itself may look at all of it but the keys. -/
theorem get_bind {next after : Dialogue → Run α}
    (second : ∀ dialogue, Rekeys apiKey (next dialogue) (after (dialogue.withKey apiKey))) :
    Rekeys apiKey (get >>= next) (get >>= after) := by
  constructor
  intro dialogue
  rw [hold_bind_ok (hold_get _), hold_bind_ok (hold_get _)]
  exact (second dialogue).held dialogue

/-- What needs a session goes on with the one that has the other key. -/
theorem present_bind (session : Option Session) {next : Session → Run α}
    (second : ∀ found : Session, Rekeys apiKey (next found) (next (found.withKey apiKey))) :
    Rekeys apiKey (Run.present session >>= next)
      (Run.present (session.map (·.withKey apiKey)) >>= next) := by
  cases session with
  | none => exact ⟨fun _ => rfl⟩
  | some found => exact second found

/-- What an account has to be authenticated for goes on with the session that has the other key. -/
theorem authenticated_bind (session : Option Session) (action : String) {next : Session → Run α}
    (second : ∀ found : Session, Rekeys apiKey (next found) (next (found.withKey apiKey))) :
    Rekeys apiKey (Run.ofOutcome (Manager.authenticated session action) >>= next)
      (Run.ofOutcome (Manager.authenticated (session.map (·.withKey apiKey)) action) >>= next) := by
  cases session with
  | none => exact ⟨fun _ => rfl⟩
  | some found =>
    -- Only the account decides, and that is the same with another key.
    show Rekeys apiKey
      (Run.ofOutcome (if found.account.company.isSome then .ok found else _) >>= next)
      (Run.ofOutcome (if found.account.company.isSome then .ok (found.withKey apiKey) else _) >>=
        next)
    split
    · exact second found
    · exact ⟨fun _ => rfl⟩

end Run.Rekeys

namespace Client

variable (session : Session) (apiKey : String)

theorem rekeys_status (requestId : String) : Run.Rekeys apiKey (status session requestId)
    (status (session.withKey apiKey) requestId) :=
  .of_call (fun _ => rfl) (hold_status session · requestId)
    (hold_status (session.withKey apiKey) · requestId)

theorem rekeys_certificate (certificateId : String) :
    Run.Rekeys apiKey (certificate session certificateId)
      (certificate (session.withKey apiKey) certificateId) :=
  .of_call (fun _ => rfl) (hold_certificate session · certificateId)
    (hold_certificate (session.withKey apiKey) · certificateId)

theorem rekeys_application (name : String) : Run.Rekeys apiKey (application session name)
    (application (session.withKey apiKey) name) :=
  .of_call (fun _ => rfl) (hold_application session · name)
    (hold_application (session.withKey apiKey) · name)

theorem rekeys_issuingTemplate (application templateAlias : String) :
    Run.Rekeys apiKey (issuingTemplate session application templateAlias)
      (issuingTemplate (session.withKey apiKey) application templateAlias) :=
  .of_call (fun _ => rfl) (hold_issuingTemplate session · application templateAlias)
    (hold_issuingTemplate (session.withKey apiKey) · application templateAlias)

theorem rekeys_search (wanted : Search) : Run.Rekeys apiKey (search session wanted)
    (search (session.withKey apiKey) wanted) := by
  refine (Run.Rekeys.ofPlatform wanted.encode).bind fun payload => ?_
  exact .of_call (fun _ => rfl) (hold_send_read (.posting session _ payload) _)
    (hold_send_read (.posting (session.withKey apiKey) _ payload) _)

theorem rekeys_submit (submission : Submission) : Run.Rekeys apiKey (submit session submission)
    (submit (session.withKey apiKey) submission) :=
  .of_call (fun _ => rfl) (hold_submit session · submission)
    (hold_submit (session.withKey apiKey) · submission)

theorem rekeys_contents (certificateId : String) (order : Option ChainOrder) :
    Run.Rekeys apiKey (contents session certificateId order)
      (contents (session.withKey apiKey) certificateId order) :=
  .of_call (fun _ => rfl) (hold_send _) (hold_send _)

end Client

namespace Resolution

variable (session : Session) (apiKey : String)

theorem rekeys_resolveFingerprint (fingerprint : String) :
    Run.Rekeys apiKey (resolveFingerprint session fingerprint)
      (resolveFingerprint (session.withKey apiKey) fingerprint) := by
  refine (Client.rekeys_search session apiKey _).bind fun result => ?_
  refine Run.Rekeys.bind ?_ fun _ => .ofOutcome _
  -- What is logged of a match is told by the records found.
  unfold logMatch
  split
  · exact .log _ _ _
  · exact .log _ _ _
  · exact .pure ()

theorem rekeys_renewalTarget (renewal : RenewalRequest) :
    Run.Rekeys apiKey (renewalTarget (some session) renewal)
      (renewalTarget (some (session.withKey apiKey)) renewal) := by
  refine (Run.Rekeys.ofOutcome renewal.target).bind fun target => ?_
  split
  · exact .pure _
  · refine (rekeys_resolveFingerprint session apiKey _).bind fun found => ?_
    split
    · exact .fail _
    · exact .pure _

theorem rekeys_verifyLineage (certificateId requestId : String) (fingerprint : Option String) :
    Run.Rekeys apiKey (verifyLineage session certificateId requestId fingerprint)
      (verifyLineage (session.withKey apiKey) certificateId requestId fingerprint) := by
  refine (Client.rekeys_certificate session apiKey certificateId).bind fun certificate => ?_
  split
  · exact .pure _
  · exact .fail _

end Resolution

namespace Polling

variable (apiKey : String) (requestId : String) (timeout interval : Double)

theorem rekeys_observe (session : Session) :
    Run.Rekeys apiKey (observe session requestId timeout)
      (observe (session.withKey apiKey) requestId timeout) := by
  refine (Client.rekeys_status session apiKey requestId).bind fun status => ?_
  split
  · exact (Run.Rekeys.log _ _ _).bind fun _ => .fail _
  · split
    · exact .fail _
    · exact .pure _

theorem rekeys_readUntilFinal (sleeper : Sleeper) (session : Session) (start : Double) (reads : Nat) :
    Run.Rekeys apiKey (readUntilFinal sleeper session requestId timeout interval start reads)
      (readUntilFinal sleeper (session.withKey apiKey) requestId timeout interval start reads) := by
  -- The induction is on the reads that are left.
  induction reads with
  | zero => exact .throw _
  | succ reads ih =>
    refine (rekeys_observe apiKey requestId timeout session).bind fun status => ?_
    split
    · exact .pure _
    · -- Whether time is up is told by the clock, which is the same with every key.
      refine .get_bind fun dialogue => ?_
      show Run.Rekeys apiKey (ite (timeout.le (dialogue.clock - start) = true) _ _)
        (ite (timeout.le (dialogue.clock - start) = true) _ _)
      split
      · exact (Run.Rekeys.log _ _ _).bind fun _ => .fail _
      · exact (Run.Rekeys.sleep sleeper interval).bind fun _ => ih

theorem rekeys_awaitIssuance (sleeper : Sleeper) (session : Option Session) (requestId : Option String) :
    Run.Rekeys apiKey (awaitIssuance sleeper session interval requestId timeout)
      (awaitIssuance sleeper (session.map (·.withKey apiKey)) interval requestId timeout) := by
  unfold awaitIssuance
  split
  · exact .pure _
  · refine .present_bind session fun session => .get_bind fun dialogue => ?_
    refine (rekeys_readUntilFinal apiKey _ timeout interval sleeper session _ _).bind fun status => ?_
    refine Run.Rekeys.bind ?_ fun _ => .pure _
    unfold issuedCertificate
    split
    · exact .fail _
    · exact (Run.Rekeys.log _ _ _).bind fun _ => .pure _

end Polling

namespace Manager

variable (manager : Manager) (apiKey : String)

section Session

variable (session : Session)

theorem rekeys_assemble (body : Bytes) (option : ChainOption) :
    Run.Rekeys apiKey (Chain.assemble body option) (Chain.assemble body option) := by
  unfold Chain.assemble
  split
  · exact .fail _
  · exact (Run.Rekeys.log _ _ _).bind fun _ => .pure _

theorem rekeys_fetchCertificate (certificateId : String) :
    Run.Rekeys apiKey (fetchCertificate session certificateId)
      (fetchCertificate (session.withKey apiKey) certificateId) := by
  refine (Client.rekeys_contents session apiKey certificateId none).bind fun response => ?_
  split
  · exact rekeys_assemble apiKey _ _
  · exact .fail _

theorem rekeys_fetchChain (request : CertificateRequest) (pickupId certificateId : String) :
    Run.Rekeys apiKey (fetchChain session request pickupId certificateId)
      (fetchChain (session.withKey apiKey) request pickupId certificateId) := by
  refine (Client.rekeys_contents session apiKey certificateId _).bind fun response => ?_
  split
  · exact (Run.Rekeys.log _ _ _).bind fun _ => .fail _
  · split
    · exact .fail _
    · -- The chain is checked against the signing request, and both come without a key.
      refine (rekeys_assemble apiKey _ _).bind fun collection => ?_
      refine (Run.Rekeys.ofOutcome _).bind fun _ => ?_
      exact (Run.Rekeys.log _ _ _).bind fun _ => .pure _

theorem rekeys_retrieveSubmitted (request : CertificateRequest) (pickupId : String) :
    Run.Rekeys apiKey (manager.retrieveSubmitted session request pickupId)
      (manager.retrieveSubmitted (session.withKey apiKey) request pickupId) := by
  refine (Polling.rekeys_awaitIssuance apiKey _ _ manager.sleeper (some session) _).bind fun issued => ?_
  split
  · exact .fail _
  · exact rekeys_fetchChain apiKey session request pickupId _

theorem rekeys_retrieveByThumbprint (request : CertificateRequest) (thumbprint : String) :
    Run.Rekeys apiKey (manager.retrieveByThumbprint session request thumbprint)
      (manager.retrieveByThumbprint (session.withKey apiKey) request thumbprint) := by
  refine (Resolution.rekeys_resolveFingerprint session apiKey thumbprint).bind fun found => ?_
  split
  · refine (Run.Rekeys.recordPickup _).bind fun _ => ?_
    exact rekeys_retrieveSubmitted manager apiKey session _ _
  · exact rekeys_fetchCertificate apiKey session _
  · exact .fail _

theorem rekeys_resolveZone (zone : Zone) :
    Run.Rekeys apiKey (resolveZone session zone) (resolveZone (session.withKey apiKey) zone) := by
  refine (Client.rekeys_application session apiKey zone.application).bind fun application => ?_
  exact (Run.Rekeys.ofOutcome _).bind fun _ => .pure _

theorem rekeys_applicationFor (request : ImportRequest) :
    Run.Rekeys apiKey (manager.applicationFor session request)
      (manager.applicationFor (session.withKey apiKey) request) := by
  unfold applicationFor
  split
  · exact .pure _
  · refine (Run.Rekeys.ofOutcome _).bind fun zone => ?_
    exact (Client.rekeys_application session apiKey zone.application).bind fun _ => .pure _

theorem rekeys_upload (wanted : Upload) :
    Run.Rekeys apiKey (upload session wanted) (upload (session.withKey apiKey) wanted) := by
  -- What is learned is told by the replies that are left, and those come without a key.
  have alike : ∀ dialogue : Dialogue, uploadLearned ((dialogue.withKey apiKey).learns .ok) =
      uploadLearned (dialogue.learns .ok) := fun _ => rfl
  exact .of_call alike (hold_upload session wanted) (hold_upload (session.withKey apiKey) wanted)

theorem rekeys_listingFrom (expression : Expression) (pages limit page : Nat) :
    Run.Rekeys apiKey (listingFrom session expression pages limit page)
      (listingFrom (session.withKey apiKey) expression pages limit page) := by
  -- The induction is on the pages that there may be, for every limit that is left by then.
  induction pages generalizing limit page with
  | zero => exact .pure _
  | succ pages ih =>
    show Run.Rekeys apiKey (ite (limit = 0) _ _) (ite (limit = 0) _ _)
    split
    · exact .pure _
    · refine (Run.Rekeys.bind (Client.rekeys_search session apiKey _) fun _ => .pure _).bind
        fun batch => ?_
      show Run.Rekeys apiKey (ite ((batch.take limit).length < pageSize) _ _)
        (ite ((batch.take limit).length < pageSize) _ _)
      split
      · exact .pure _
      · exact (ih _ _).bind fun _ => .pure _

end Session

variable (session : Option Session)

theorem rekeys_readZone (zone : Option String) :
    Run.Rekeys apiKey (manager.readZone session zone)
      (manager.readZone (session.map (·.withKey apiKey)) zone) := by
  refine .authenticated_bind session _ fun session => ?_
  refine (Run.Rekeys.ofOutcome _).bind fun zone => ?_
  split
  · exact .fail _
  · exact Client.rekeys_issuingTemplate session apiKey _ _

theorem rekeys_requestCertificate (request : CertificateRequest) :
    Run.Rekeys apiKey (manager.requestCertificate session request)
      (manager.requestCertificate (session.map (·.withKey apiKey)) request) := by
  unfold requestCertificate
  split
  · exact .fail _
  · refine .authenticated_bind session _ fun session => ?_
    split
    · exact .fail _
    · refine (Run.Rekeys.ofOutcome _).bind fun zone => ?_
      refine (rekeys_resolveZone apiKey session zone).bind fun resolved => ?_
      refine (Run.Rekeys.ofPlatform _).bind fun validity => ?_
      refine (Client.rekeys_submit session apiKey _).bind fun receipt => ?_
      refine (Run.Rekeys.recordPickup _).bind fun _ => ?_
      exact (Run.Rekeys.log _ _ _).bind fun _ => .pure _

theorem rekeys_retrieveCertificate (request : CertificateRequest) :
    Run.Rekeys apiKey (manager.retrieveCertificate session request)
      (manager.retrieveCertificate (session.map (·.withKey apiKey)) request) := by
  refine .authenticated_bind session _ fun session => ?_
  split
  · exact rekeys_fetchCertificate apiKey session _
  · exact rekeys_retrieveSubmitted manager apiKey session request _
  · exact rekeys_retrieveByThumbprint manager apiKey session request _
  · exact .fail _

theorem rekeys_renewCertificate (renewal : RenewalRequest) :
    Run.Rekeys apiKey (renewCertificate session renewal)
      (renewCertificate (session.map (·.withKey apiKey)) renewal) := by
  refine .authenticated_bind session _ fun session => ?_
  split
  · refine (Resolution.rekeys_renewalTarget session apiKey renewal).bind fun requestId => ?_
    refine (Client.rekeys_status session apiKey requestId).bind fun previous => ?_
    split
    · exact .fail _
    · refine (Resolution.rekeys_verifyLineage session apiKey _ _ _).bind fun _ => ?_
      refine (Client.rekeys_submit session apiKey _).bind fun receipt => ?_
      refine (Run.Rekeys.recordPickup _).bind fun _ => ?_
      exact (Run.Rekeys.log _ _ _).bind fun _ => .pure _
  · exact .fail _

theorem rekeys_importCertificate (request : ImportRequest) :
    Run.Rekeys apiKey (manager.importCertificate session request)
      (manager.importCertificate (session.map (·.withKey apiKey)) request) := by
  refine .authenticated_bind session _ fun session => ?_
  split
  · exact .fail _
  · refine (rekeys_applicationFor manager apiKey session request).bind fun applicationId => ?_
    refine (rekeys_upload apiKey session _).bind fun response => ?_
    refine (Run.Rekeys.ofOutcome _).bind fun _ => ?_
    refine (Run.Rekeys.sleep _ _).bind fun _ => ?_
    refine (Client.rekeys_search session apiKey _).bind fun found => ?_
    split
    · exact (Run.Rekeys.log _ _ _).bind fun _ => .pure _
    · exact .fail _

theorem rekeys_listCertificates (now : Moment) (filter : Option CertificateFilter)
    (zone : Option String) :
    Run.Rekeys apiKey (manager.listCertificates now session filter zone)
      (manager.listCertificates now (session.map (·.withKey apiKey)) filter zone) := by
  refine .authenticated_bind session _ fun session => ?_
  refine (Run.Rekeys.ofOutcome _).bind fun zone => ?_
  refine (Client.rekeys_application session apiKey _).bind fun application => ?_
  refine (rekeys_listingFrom apiKey session _ _ _ _).bind fun listed => ?_
  exact (Run.Rekeys.log _ _ _).bind fun _ => .pure _

end Manager

/-- Every operation in a session is held alike with another key; only opening one has a key of its own. -/
theorem Operation.rekeys_run (desk : Desk) (apiKey : String) {operation : Operation}
    (keyless : ∀ given, operation ≠ .authenticate given) :
    Run.Rekeys apiKey (operation.run desk) (operation.run (desk.withKey apiKey)) := by
  cases operation with
  | authenticate given => exact absurd rfl (keyless given)
  | readZone zone => exact (Manager.rekeys_readZone _ apiKey _ zone).map _
  | request name => exact (Manager.rekeys_requestCertificate _ apiKey _ _).map _
  | retrieve name => exact (Manager.rekeys_retrieveCertificate _ apiKey _ _).map _
  | renew renewal name => exact (Manager.rekeys_renewCertificate apiKey _ _).map _
  | importCertificate wanted => exact (Manager.rekeys_importCertificate _ apiKey _ wanted).map _
  | list filter zone => exact (Manager.rekeys_listCertificates _ apiKey _ _ filter zone).map _
  | await requestId timeout => exact (Polling.rekeys_awaitIssuance apiKey _ _ _ _ requestId).map _

namespace Desk

/-- Only an operation that opens a session gives one. -/
theorem run_ne_session (desk : Desk) {operation : Operation}
    (keyless : ∀ given, operation ≠ .authenticate given) (dialogue : Dialogue) (session : Session) :
    ((operation.run desk).hold dialogue).1 ≠ .ok (.session session) := by
  -- What an operation gives is told by its kind, and it gives nothing if it does not come to that.
  have other : ∀ {α : Type} (give : α → Operation.Result) (run : Run α),
      (∀ value, give value ≠ .session session) →
        ((give <$> run).hold dialogue).1 ≠ .ok (.session session) := by
    intro α give run never
    rw [Run.hold_map]
    rcases run.hold dialogue with ⟨stop | value, later⟩
    · exact nofun
    · exact fun same => never value (Except.ok.inj same)
  cases operation with
  | authenticate given => exact absurd rfl (keyless given)
  | readZone | request | retrieve | renew | importCertificate | list | await =>
    exact other _ _ fun _ => nofun

/-- With the key that the session has anyway, the desk is as it was. -/
theorem withKey_self {desk : Desk} {session : Session} (present : desk.session = some session) :
    desk.withKey session.apiKey = desk := by
  rcases desk with ⟨manager, now, _, ledger⟩
  cases present
  rfl

/-- An operation that opens no session is performed alike with another key in the session. -/
theorem perform_rekeyed (desk : Desk) (apiKey : String) {operation : Operation}
    (keyless : ∀ given, operation ≠ .authenticate given) (arrivals : List Arrival) :
    (desk.withKey apiKey).perform operation arrivals =
      ((desk.perform operation arrivals).1, (desk.perform operation arrivals).2.1.withKey apiKey,
        (desk.perform operation arrivals).2.2.withKey apiKey) := by
  have held := (Operation.rekeys_run desk apiKey keyless).held { arrivals }
  have opens := run_ne_session desk keyless { arrivals }
  -- A dialogue in which nothing was said is the same with every key.
  have start : ({ arrivals } : Dialogue).withKey apiKey = { arrivals } := rfl
  rw [start] at held
  unfold perform
  rw [Run.on_eq_hold, Run.on_eq_hold, held]
  generalize (operation.run desk).hold { arrivals } = performed at opens ⊢
  rcases performed with ⟨outcome, dialogue⟩
  refine congrArg (outcome, dialogue.withKey apiKey, ·) ?_
  -- The ledger takes what was recorded, and the session is still that of the desk.
  rcases outcome with stop | result
  · rfl
  · cases result with
    | session session => exact absurd rfl (opens session)
    | template | pickup | collection | imported | listing | issued => rfl

/--
With another API key in the session, an operation comes to the same and leaves the same behind.

Its calls differ in their one header alone, in which each has the key of the session itself.
-/
theorem perform_withKey (desk : Desk) (apiKey : String) {operation : Operation}
    (keyless : ∀ given, operation ≠ .authenticate given) (arrivals : List Arrival) :
    (desk.withKey apiKey).perform operation arrivals =
        ((desk.perform operation arrivals).1, (desk.perform operation arrivals).2.1.withKey apiKey,
          (desk.perform operation arrivals).2.2.withKey apiKey) ∧
      ∀ call ∈ (desk.perform operation arrivals).2.1.sent, ∃ session, desk.session = some session ∧
        call.headers = [("tppl-api-key", session.apiKey)] := by
  refine ⟨perform_rekeyed desk apiKey keyless arrivals, fun call sent => ?_⟩
  -- Where the desk is the same with some key, that key is the one of every call.
  have keyed : ∀ key, desk.withKey key = desk → call.apiKey = some key := by
    intro key same
    have performed := perform_rekeyed desk key keyless arrivals
    rw [same] at performed
    have calls := congrArg (·.2.1.sent) performed
    dsimp only at calls
    rw [calls] at sent
    obtain ⟨_, _, rekeyed⟩ := List.mem_map.mp sent
    rw [← rekeyed]
    rfl
  cases present : desk.session with
  | none =>
    -- Without a session every key would be the one of the call, so that there is no call.
    have any : ∀ key, desk.withKey key = desk := by
      intro key
      rcases desk with ⟨manager, now, _, ledger⟩
      cases present
      rfl
    have same := (keyed "" (any "")).symm.trans (keyed "key" (any "key"))
    exact absurd (Option.some.inj same) (by decide)
  | some session =>
    refine ⟨session, rfl, ?_⟩
    unfold Call.headers
    rw [keyed session.apiKey (withKey_self present)]
    rfl

/-- A wait that times out does so with either key, and each is told in the header of its one call. -/
theorem perform_withKey_timeout :
    let session : Session := ⟨"key", { company := some ⟨"co-1", "Example"⟩ }⟩
    let desk : Desk := ⟨⟨none, .ofInt 2, .ofInt 1, "host", .system⟩, ⟨2026, 1, 15, 0, 0, 0, 0, none⟩,
      some session, []⟩
    let wait : Operation := .await (some "7214") .zero
    let arrivals : List Arrival := [⟨.zero, .timeout "no answer"⟩]
    let held := desk.perform wait arrivals
    let heldToo := (desk.withKey "other").perform wait arrivals
    held.1.isOk = false ∧ heldToo.1 = held.1 ∧ heldToo.2.1.log = held.2.1.log ∧
      held.2.1.sent.map Call.headers = [[("tppl-api-key", "key")]] ∧
      heldToo.2.1.sent.map Call.headers = [[("tppl-api-key", "other")]] := by
  intro session desk wait arrivals held heldToo
  have keyless : ∀ given, wait ≠ .authenticate given := fun _ => nofun
  obtain ⟨rekeyed, keyed⟩ := perform_withKey desk "other" keyless arrivals
  have same : heldToo = (held.1, held.2.1.withKey "other", held.2.2.withKey "other") := rekeyed
  have sent : held.2.1.sent = [.status session "7214"] := rfl
  obtain ⟨_, present, header⟩ := keyed (.status session "7214") (by
    show _ ∈ held.2.1.sent
    rw [sent]
    exact List.mem_singleton_self _)
  cases present
  rw [same]
  refine ⟨rfl, rfl, rfl, ?_, ?_⟩
  · rw [sent, List.map_singleton, header]
  · -- The key of the other session stands where the one of this session stood.
    show (held.2.1.sent.map (·.withKey "other")).map Call.headers = _
    rw [sent]
    rfl

end Desk

end Issuance
