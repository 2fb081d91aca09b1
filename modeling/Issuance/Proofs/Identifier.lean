import Issuance.Proofs.Delivery
import Issuance.Proofs.Ledger

/-! The id that an operation returns: the reply that tells of it, and what a later retrieval makes of it. -/

namespace Issuance

/-- A reply tells one value at most. -/
theorem Reply.Tells.unique {α : Type} {reply : Reply} {check : Check α} {status : Int}
    {one other : α} (tells : reply.Tells check status one) (tellsToo : reply.Tells check status other) :
    one = other := by
  -- Both are what the check makes of one and the same body.
  obtain ⟨response, rfl, _, read⟩ := tells
  obtain ⟨_, same, _, readToo⟩ := tellsToo
  cases same
  rw [read] at readToo
  cases readToo
  rfl

namespace Polling

/-- A wait that ends without a failure had nothing to wait for, or it gives an id that is not empty. -/
theorem issued_of_hold_awaitIssuance {sleeper : Sleeper} {session : Option Session}
    {interval timeout : Double} {requestId found : Option String} {dialogue later : Dialogue}
    (held : (awaitIssuance sleeper session interval requestId timeout).hold dialogue =
      (.ok found, later)) :
    (filled? requestId = none ∧ found = none) ∨
      ∃ certificateId, found = some certificateId ∧ certificateId ≠ "" := by
  unfold awaitIssuance at held
  cases given : filled? requestId with
  | none =>
    rw [given] at held
    cases held
    exact .inl ⟨rfl, rfl⟩
  | some named =>
    rw [given] at held
    obtain ⟨_, _, _, held⟩ := Run.hold_bind_eq_ok held
    obtain ⟨_, _, _, held⟩ := Run.hold_bind_eq_ok held
    obtain ⟨status, middle, _, held⟩ := Run.hold_bind_eq_ok held
    obtain ⟨certificateId, _, issued, held⟩ := Run.hold_bind_eq_ok held
    cases held
    -- However the reads end, their status counts only with the id of a certificate.
    obtain ⟨log, counted⟩ := @hold_issuedCertificate named status middle
    rw [issued] at counted
    refine .inr ⟨certificateId, rfl, ?_⟩
    by_cases empty : status.certificateId = ""
    · rw [if_pos empty] at counted
      cases counted
    · rw [if_neg empty] at counted
      cases counted
      exact empty

end Polling

namespace Manager

/-- What was submitted last has one receipt, and its first record one id. -/
theorem Receipted.unique {arrivals : List Arrival} {sent : List Call} {one other : String}
    (receipted : Receipted arrivals sent one) (receiptedToo : Receipted arrivals sent other) :
    one = other := by
  obtain ⟨calls, post, arrival, first, others, rfl, _, place, tells, rfl⟩ := receipted
  obtain ⟨_, _, _, _, _, same, _, placeToo, tellsToo, rfl⟩ := receiptedToo
  -- The posts are in the same place, so that it is the same reply that tells of both.
  obtain ⟨rfl, _⟩ := List.append_inj' same rfl
  rw [place] at placeToo
  cases placeToo
  cases tells.unique tellsToo
  rfl

/-- Each call that looks the application up takes one reply. -/
theorem Destination.length_eq {manager : Manager} {session : Session} {request : ImportRequest}
    {lookup : List Call} {replies : List Arrival} {applicationId : String}
    (destination : Destination manager session request lookup replies applicationId) :
    lookup.length = replies.length := by
  cases destination <;> rfl

/-- The last of the calls is a search, and its reply tells of the one record. -/
def Located (arrivals : List Arrival) (sent : List Call) (record : CertificateSummary) : Prop :=
  ∃ calls session wanted arrival count, sent = calls ++ [.search session wanted] ∧
    arrivals[calls.length]? = some arrival ∧
    arrival.reply.Tells SearchResult.check 200 ⟨count, [record]⟩

/-- An import that returns has located its certificate, and gives the id of that record as it is. -/
theorem located_of_returned {manager : Manager} {session : Option Session} {request : ImportRequest}
    {arrivals : List Arrival} {imported : ImportedCertificate}
    (returned : ((manager.importCertificate session request).on arrivals).1 = .ok imported) :
    ∃ record, Located arrivals ((manager.importCertificate session request).on arrivals).2.sent
      record ∧ imported = ⟨record.subjectCn, record.id⟩ := by
  obtain ⟨preparation⟩ := Preparation.of_returned returned
  obtain ⟨settles, uploaded, searched, later, count, record, next, taken, told, rfl⟩ :=
    preparation.replies_of_returned returned
  obtain ⟨sent, _⟩ := preparation.taken_searches next taken settles
  refine ⟨record, ⟨preparation.lookup ++ [preparation.upload], preparation.account,
    { expression := { operands := [⟨"fingerprint", .matching, .text preparation.fingerprint⟩] } },
    searched, count, ?_, ?_, told⟩, rfl⟩
  · rw [sent, List.append_assoc]
    rfl
  · -- Before the search, there is one reply for each call of the lookup and one for the upload.
    have place : (preparation.replies ++ uploaded :: searched :: later)[
        preparation.replies.length + 1]? = some searched := by simp
    rw [List.length_append, preparation.destination.length_eq, List.length_singleton, ← place, ← next]
    exact congrArg (·[preparation.replies.length + 1]?) preparation.next

/-- A request that names nothing is not retrieved, and nobody is asked. -/
theorem on_retrieveCertificate_unnamed (manager : Manager) {session : Session}
    {request : CertificateRequest} (company : session.account.company.isSome)
    (uncertified : filled? request.certificateId = none)
    (unsubmitted : filled? request.pickupId = none)
    (unprinted : filled? request.thumbprint = none) (arrivals : List Arrival) :
    (manager.retrieveCertificate (some session) request).on arrivals =
      (.error (.failed .nothingToRetrieve), { arrivals }) := by
  unfold retrieveCertificate
  rw [Run.on_eq_hold, Run.hold_bind_ok (hold_authenticated company _ _), uncertified, unsubmitted,
    unprinted]
  rfl

end Manager

namespace Turn

variable {turn : Turn} {ledger : Ledger}

/-- The result of a turn is the value of its run, told as a result of the operation. -/
theorem value_of_performed {α : Type} {f : α → Operation.Result} {run : Run α}
    {result : Operation.Result}
    (same : turn.operation.run (turn.desk ledger) = f <$> run)
    (returned : (turn.performed ledger).1 = .ok result) :
    ∃ value, (run.on turn.arrivals).1 = .ok value ∧ f value = result := by
  rw [(turn.performed_of_map ledger same).1] at returned
  cases outcome : (run.on turn.arrivals).1 with
  | error stop =>
    rw [outcome] at returned
    cases returned
  | ok value =>
    rw [outcome] at returned
    cases returned
    exact ⟨value, rfl, rfl⟩

/-- A turn that gives a pickup id has submitted something, and has recorded the first id of its receipt. -/
theorem receipted_of_pickup {pickupId : String}
    (returned : (turn.performed ledger).1 = .ok (.pickup pickupId)) :
    (turn.performed ledger).2.1.recorded = some pickupId ∧
      Manager.Receipted turn.arrivals (turn.performed ledger).2.1.sent pickupId := by
  cases acts : turn.operation with
  | request name =>
    have same : turn.operation.run (turn.desk ledger) = .pickup <$>
        turn.manager.requestCertificate turn.session ((ledger.request? name).getD {}) := by
      rw [acts]
      rfl
    obtain ⟨records, receipted⟩ := performed_of_submission pickupId same
      (Manager.on_requestCertificate turn.manager turn.session _ turn.arrivals)
    exact ⟨records.mp returned, receipted returned⟩
  | renew renewal name =>
    have same : turn.operation.run (turn.desk ledger) = .pickup <$>
        Manager.renewCertificate turn.session
          { renewal with request := (name.bind ledger.request?).or renewal.request } := by
      rw [acts]
      rfl
    obtain ⟨records, receipted⟩ := performed_of_submission pickupId same
      (Manager.on_renewCertificate turn.session _ turn.arrivals)
    exact ⟨records.mp returned, receipted returned⟩
  -- No other operation has a pickup id for its result.
  | authenticate | readZone | retrieve | importCertificate | list | await =>
    rcases turn with ⟨_, _, _, _, _⟩
    cases acts
    obtain ⟨_, _, other⟩ := value_of_performed rfl returned
    cases other

/-- A turn that gives the outcome of a wait gives an id that is not empty, if there was a request to wait for. -/
theorem filled_of_issued {found : Option String}
    (returned : (turn.performed ledger).1 = .ok (.issued found)) :
    ∃ requestId timeout, turn.operation = .await requestId timeout ∧
      ((filled? requestId = none ∧ found = none) ∨
        ∃ certificateId, found = some certificateId ∧ certificateId ≠ "") := by
  rcases turn with ⟨manager, now, session, operation, arrivals⟩
  cases operation with
  | await requestId timeout =>
    obtain ⟨value, awaited, same⟩ := value_of_performed rfl returned
    cases same
    exact ⟨requestId, timeout, rfl, Polling.issued_of_hold_awaitIssuance (Prod.ext awaited rfl)⟩
  | authenticate | readZone | request | retrieve | renew | importCertificate | list =>
    obtain ⟨_, _, other⟩ := value_of_performed rfl returned
    cases other

/-- A turn that gives an imported certificate gives the id of the record it has located. -/
theorem located_of_imported {imported : ImportedCertificate}
    (returned : (turn.performed ledger).1 = .ok (.imported imported)) :
    ∃ record, Manager.Located turn.arrivals (turn.performed ledger).2.1.sent record ∧
      imported = ⟨record.subjectCn, record.id⟩ := by
  rcases turn with ⟨manager, now, session, operation, arrivals⟩
  cases operation with
  | importCertificate wanted =>
    obtain ⟨value, returnedToo, same⟩ := value_of_performed rfl returned
    cases same
    have dialogue := (performed_of_map ⟨manager, now, session, .importCertificate wanted, arrivals⟩
      ledger rfl).2
    rw [dialogue]
    exact Manager.located_of_returned returnedToo
  | authenticate | readZone | request | retrieve | renew | list | await =>
    obtain ⟨_, _, other⟩ := value_of_performed rfl returned
    cases other

/-- A turn that retrieves a request without any name for it fails, and asks nobody. -/
theorem performed_unnamed {name : String} {request : CertificateRequest} {session : Session}
    (retrieves : turn.operation = .retrieve name) (present : turn.session = some session)
    (company : session.account.company.isSome) (found : ledger.request? name = some request)
    (uncertified : filled? request.certificateId = none)
    (unsubmitted : filled? request.pickupId = none)
    (unprinted : filled? request.thumbprint = none) :
    (turn.performed ledger).1 = .error (.failed .nothingToRetrieve) ∧
      (turn.performed ledger).2.1.sent = [] := by
  rcases turn with ⟨manager, now, _, operation, arrivals⟩
  cases retrieves
  cases present
  obtain ⟨outcome, dialogue⟩ :=
    performed_of_map ⟨manager, now, some session, .retrieve name, arrivals⟩ ledger rfl
  have unnamed := manager.on_retrieveCertificate_unnamed company uncertified unsubmitted unprinted
    arrivals
  rw [outcome, dialogue]
  show ((manager.retrieveCertificate (some session) ((ledger.request? name).getD {})).on arrivals).1.map
      Operation.Result.collection = _ ∧
    ((manager.retrieveCertificate (some session) ((ledger.request? name).getD {})).on arrivals).2.sent = _
  rw [found, Option.getD_some, unnamed]
  exact ⟨rfl, rfl⟩

end Turn

/--
The id that an operation returns is the one its reply tells of, with no look at whether it is empty.

A submission returns and records the first id of its receipt, so that it is empty exactly if that is.
An import gives the id of the one record that it locates, which is empty where the record has none.
Only a wait for issuance makes sure of an id that is not empty.
The request is polled from then on if the id is not empty, and is as good as never submitted otherwise.
-/
theorem Turn.performed_identifies (turn : Turn) (ledger : Ledger) :
    let held := turn.performed ledger
    (∀ pickupId, held.1 = .ok (.pickup pickupId) →
      held.2.1.recorded = some pickupId ∧
      Manager.Receipted turn.arrivals held.2.1.sent pickupId ∧
      (pickupId ≠ "" ↔ ¬ Manager.Receipted turn.arrivals held.2.1.sent "")) ∧
    (∀ requestId timeout found, turn.operation = .await (some requestId) timeout → requestId ≠ "" →
      held.1 = .ok (.issued found) → ∃ certificateId, found = some certificateId ∧ certificateId ≠ "") ∧
    (∀ imported, held.1 = .ok (.imported imported) → ∃ record,
      Manager.Located turn.arrivals held.2.1.sent record ∧ imported.certificateId = record.id) ∧
    ∀ name pickupId request, turn.Returns ledger name pickupId →
      ledger.request? name = some request → filled? request.certificateId = none →
      ∀ (retrieval : Turn) (session : Session), retrieval.operation = .retrieve name →
        retrieval.session = some session → session.account.company.isSome →
          let retrieved := retrieval.performed held.2.2.ledger
          (pickupId ≠ "" → Polls session pickupId retrieved.2.1.sent) ∧
          (pickupId = "" → filled? request.thumbprint = none →
            retrieved.1 = .error (.failed .nothingToRetrieve) ∧ retrieved.2.1.sent = []) := by
  intro held
  refine ⟨fun pickupId returned => ?_, fun requestId timeout found awaits filled returned => ?_,
    fun imported returned => ?_, ?_⟩
  · obtain ⟨recorded, receipted⟩ := receipted_of_pickup returned
    refine ⟨recorded, receipted, ?_⟩
    constructor
    · exact fun filled empty => filled (receipted.unique empty)
    · rintro other rfl
      exact other receipted
  · obtain ⟨_, _, awaitsToo, nothing | issued⟩ := filled_of_issued returned
    · rw [awaits] at awaitsToo
      cases awaitsToo
      rw [filled?_eq_some.mpr ⟨rfl, filled⟩] at nothing
      cases nothing.1
    · exact issued
  · obtain ⟨record, located, rfl⟩ := located_of_imported returned
    exact ⟨record, located, rfl⟩
  · intro name pickupId request returns found uncertified retrieval session retrieves present company
    -- The request is as it was, but for the id that has been returned.
    have assigned : held.2.2.ledger.request? name = some { request with pickupId := some pickupId } := by
      rw [(turn.request?_performed ledger name).1 pickupId (.inl returns), found]
      rfl
    refine ⟨fun filled => ?_, fun empty unprinted => ?_⟩
    · exact Turn.polls_of_pickedUp ⟨_, assigned, uncertified, filled?_eq_some.mpr ⟨rfl, filled⟩⟩
        retrieves present company
    · subst empty
      exact performed_unnamed retrieves present company assigned uncertified rfl unprinted

/-- A reply to a submission whose receipt names the request by an empty text. -/
def emptyReceipt : Reply := .response ⟨201, "Created",
  Utf8.encode "\x7b\"certificateRequests\":[\x7b\"id\":\"\"\x7d]\x7d"⟩

/-- A request whose receipt has an empty id is returned and recorded with it, and cannot be retrieved. -/
theorem Turn.performed_identifies_empty :
    let session : Session := ⟨"key", { company := some ⟨"co-1", "Example"⟩ }⟩
    let manager : Manager := ⟨none, .ofInt 2, .ofInt 1, "host", .system⟩
    let ledger : Ledger := [("r", { csr := some "csr", zone := "Payments" })]
    let turn : Turn := ⟨manager, ⟨2026, 1, 15, 12, 30, 45, 0, some 0⟩, some session, .request "r",
      [⟨.zero, Manager.applicationReply⟩, ⟨.zero, emptyReceipt⟩]⟩
    let retrieval : Turn := { turn with operation := .retrieve "r", arrivals := [] }
    let held := turn.performed ledger
    held.1 = .ok (.pickup "") ∧ held.2.1.recorded = some "" ∧
      (retrieval.performed held.2.2.ledger).1 = .error (.failed .nothingToRetrieve) := by
  intro session manager ledger turn retrieval held
  -- The run is on fixed replies, so that it can be held here; what follows from it is told by the theorem.
  have submitted : ((turn.manager.requestCertificate turn.session
      ((ledger.request? "r").getD {})).on turn.arrivals).1.toOption = some "" := by decide +kernel
  have returned : held.1 = .ok (.pickup "") := by
    rw [(turn.performed_of_map ledger rfl).1]
    cases outcome : ((turn.manager.requestCertificate turn.session
      ((ledger.request? "r").getD {})).on turn.arrivals).1 with
    | error stop =>
      rw [outcome] at submitted
      cases submitted
    | ok pickupId =>
      rw [outcome] at submitted
      cases submitted
      exact congrArg (Except.map Operation.Result.pickup) outcome
  obtain ⟨submissions, _, _, retrievals⟩ := turn.performed_identifies ledger
  refine ⟨returned, (submissions "" returned).1, ?_⟩
  exact ((retrievals "r" "" { csr := some "csr", zone := "Payments" } ⟨.inl rfl, returned⟩ rfl rfl
    retrieval session rfl rfl rfl).2 rfl rfl).1

end Issuance
