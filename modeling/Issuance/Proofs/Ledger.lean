import Issuance.Lifecycle.Ledger
import Issuance.Proofs.Pickup
import Issuance.Proofs.Renewal

/-! Pickup ids over whole runs: what changes them, what leaves them alone, what is polled for them. -/

namespace Issuance

/-- Recording a pickup id changes that of the named request, and nothing else. -/
theorem Ledger.request?_record (ledger : Ledger) (name pickupId other : String) :
    (ledger.record name pickupId).request? other =
      if other = name then
        (ledger.request? other).map fun request => { request with pickupId := some pickupId }
      else ledger.request? other := by
  unfold record request?
  induction ledger with
  | nil => simp
  | cons entry rest ih =>
    rcases entry with ⟨key, request⟩
    simp only [List.map_cons, List.lookup_cons, ih]
    -- The first entry is the one that is looked for, or the others decide.
    by_cases here : other = key
    · subst here
      by_cases same : other = name <;> simp [same]
    · simp [beq_false_of_ne here]

namespace Desk

variable (desk : Desk) (operation : Operation) (outcome : Except Stop Operation.Result)
  (dialogue : Dialogue)

/-- A pickup id that is recorded is kept for the request that the operation works on. -/
theorem ledger_after {name pickupId : String} (named : operation.requestName? = some name)
    (recorded : dialogue.recorded = some pickupId) :
    (desk.after operation outcome dialogue).ledger = desk.ledger.record name pickupId := by
  simp only [after, named, recorded]

/-- The requests stay as they are where there is no request or no pickup id to keep for it. -/
theorem ledger_after_of_unrecorded
    (nothing : operation.requestName? = none ∨ dialogue.recorded = none) :
    (desk.after operation outcome dialogue).ledger = desk.ledger := by
  rcases nothing with unnamed | unrecorded
  · simp only [after, unnamed]
  · cases named : operation.requestName? <;> simp only [after, named, unrecorded]

end Desk

/-- One operation of a run: what its caller has chosen, and the replies to come for it. -/
structure Turn where
  manager : Manager
  now : Moment
  session : Option Session
  operation : Operation
  arrivals : List Arrival

/-- The desk for the operation, over the requests of a ledger. -/
def Turn.desk (turn : Turn) (ledger : Ledger) : Desk := { turn with ledger }

/-- What becomes of the operation over the requests of a ledger. -/
def Turn.performed (turn : Turn) (ledger : Ledger) :
    Except Stop Operation.Result × Dialogue × Desk :=
  (turn.desk ledger).perform turn.operation turn.arrivals

/-- The requests after a run of operations. -/
def Ledger.after (ledger : Ledger) (turns : List Turn) : Ledger :=
  turns.foldl (fun ledger turn => (turn.performed ledger).2.2.ledger) ledger

/-- The operation submits the named request: as it is, or to renew a certificate. -/
def Operation.SubmitsFor (operation : Operation) (name : String) : Prop :=
  operation = .request name ∨ ∃ renewal, operation = .renew renewal (some name)

/-- An operation works on a named request by submitting it or by retrieving it. -/
theorem Operation.requestName?_eq_some {operation : Operation} {name : String} :
    operation.requestName? = some name ↔
      operation.SubmitsFor name ∨ operation = .retrieve name := by
  unfold SubmitsFor
  cases operation <;> simp [requestName?]

namespace Turn

/-- The turn submits the named request, and returns with the pickup id. -/
structure Returns (turn : Turn) (ledger : Ledger) (name pickupId : String) : Prop where
  submits : turn.operation.SubmitsFor name
  returned : (turn.performed ledger).1 = .ok (.pickup pickupId)

/-- The turn retrieves the named request, and is led to the pickup id by the thumbprint. -/
structure Resolves (turn : Turn) (ledger : Ledger) (name pickupId : String) : Prop where
  retrieves : turn.operation = .retrieve name
  led : Manager.LedTo turn.session ((ledger.request? name).getD {}) turn.arrivals
    (turn.performed ledger).2.1.sent pickupId

/-- The turn assigns the pickup id to the named request, in one of the two ways there are. -/
def Assigns (turn : Turn) (ledger : Ledger) (name pickupId : String) : Prop :=
  turn.Returns ledger name pickupId ∨ turn.Resolves ledger name pickupId

variable (turn : Turn) (ledger : Ledger) (name : String)

/-- What a turn performs is what its run gives, told as a result of the operation. -/
theorem performed_of_map {α : Type} {f : α → Operation.Result} {run : Run α}
    (same : turn.operation.run (turn.desk ledger) = f <$> run) :
    (turn.performed ledger).1 = (run.on turn.arrivals).1.map f ∧
      (turn.performed ledger).2.1 = (run.on turn.arrivals).2 := by
  have held := Run.hold_map f run { arrivals := turn.arrivals }
  rw [← same] at held
  exact ⟨congrArg Prod.fst held, congrArg Prod.snd held⟩

variable {turn ledger name}

/-- What submits and records the id that it returns is a turn that does so. -/
theorem performed_of_submission {run : Run String} (pickupId : String)
    (same : turn.operation.run (turn.desk ledger) = .pickup <$> run)
    (records : (run.on turn.arrivals).2.recorded = (run.on turn.arrivals).1.toOption ∧
      ∀ pickupId, (run.on turn.arrivals).1 = .ok pickupId →
        Manager.Receipted turn.arrivals (run.on turn.arrivals).2.sent pickupId) :
    ((turn.performed ledger).1 = .ok (.pickup pickupId) ↔
      (turn.performed ledger).2.1.recorded = some pickupId) ∧
    ((turn.performed ledger).1 = .ok (.pickup pickupId) →
      Manager.Receipted turn.arrivals (turn.performed ledger).2.1.sent pickupId) := by
  obtain ⟨returned, dialogue⟩ := turn.performed_of_map ledger same
  rw [returned, dialogue, records.1]
  -- What stops records as little as it returns, and what ends has recorded what it returns.
  cases outcome : (run.on turn.arrivals).1 with
  | error stop => exact ⟨⟨nofun, nofun⟩, nofun⟩
  | ok found =>
    refine ⟨⟨fun named => ?_, fun named => ?_⟩, fun named => ?_⟩
    · cases named
      rfl
    · cases named
      rfl
    · cases named
      exact records.2 _ outcome

/-- A submission returns what it records, and that is the first id of its receipt. -/
theorem performed_of_submits (submits : turn.operation.SubmitsFor name) (pickupId : String) :
    ((turn.performed ledger).1 = .ok (.pickup pickupId) ↔
      (turn.performed ledger).2.1.recorded = some pickupId) ∧
    ((turn.performed ledger).1 = .ok (.pickup pickupId) →
      Manager.Receipted turn.arrivals (turn.performed ledger).2.1.sent pickupId) := by
  rcases turn with ⟨manager, now, session, operation, arrivals⟩
  rcases submits with same | ⟨renewal, same⟩
  · cases same
    exact performed_of_submission pickupId rfl (Manager.on_requestCertificate manager session _ arrivals)
  · cases same
    exact performed_of_submission pickupId rfl (Manager.on_renewCertificate session _ arrivals)

/-- A retrieval records the pickup id that it is led to. -/
theorem recorded_of_retrieves (retrieves : turn.operation = .retrieve name) (pickupId : String) :
    (turn.performed ledger).2.1.recorded = some pickupId ↔ turn.Resolves ledger name pickupId := by
  rcases turn with ⟨manager, now, session, operation, arrivals⟩
  cases retrieves
  obtain ⟨_, dialogue⟩ :=
    performed_of_map ⟨manager, now, session, .retrieve name, arrivals⟩ ledger rfl
  rw [dialogue]
  refine (Manager.recorded_retrieveCertificate manager session
    ((ledger.request? name).getD {}) arrivals pickupId).trans ?_
  constructor
  · exact fun led => ⟨rfl, dialogue ▸ led⟩
  · exact fun resolves => dialogue ▸ resolves.led

variable (turn ledger name)

/-- A turn assigns what it has recorded by its end, if it works on the named request. -/
theorem assigns_iff (pickupId : String) :
    turn.Assigns ledger name pickupId ↔ turn.operation.requestName? = some name ∧
      (turn.performed ledger).2.1.recorded = some pickupId := by
  rw [Operation.requestName?_eq_some]
  constructor
  · intro assigns
    rcases assigns with returns | resolves
    · exact ⟨.inl returns.submits,
        (performed_of_submits returns.submits pickupId).1.mp returns.returned⟩
    · exact ⟨.inr resolves.retrieves,
        (recorded_of_retrieves resolves.retrieves pickupId).mpr resolves⟩
  · intro records
    obtain ⟨submits | retrieves, recorded⟩ := records
    · exact .inl ⟨submits, (performed_of_submits submits pickupId).1.mpr recorded⟩
    · exact .inr ((recorded_of_retrieves retrieves pickupId).mp recorded)

/-- Behind a turn, the named request has the pickup id it is assigned, or is as it was. -/
theorem request?_performed (turn : Turn) (ledger : Ledger) (name : String) :
    (∀ pickupId, turn.Assigns ledger name pickupId →
      (turn.performed ledger).2.2.ledger.request? name =
        (ledger.request? name).map fun request => { request with pickupId := some pickupId }) ∧
    ((∀ pickupId, ¬ turn.Assigns ledger name pickupId) →
      (turn.performed ledger).2.2.ledger.request? name = ledger.request? name) := by
  have assigns := turn.assigns_iff ledger name
  have untouched := (turn.desk ledger).ledger_after_of_unrecorded turn.operation
    (turn.performed ledger).1 (turn.performed ledger).2.1
  -- It takes a request that is worked on and an id that is recorded for anything to change.
  cases named : turn.operation.requestName? with
  | none =>
    refine ⟨fun pickupId assigned => ?_, fun _ => congrArg (·.request? name) (untouched (.inl named))⟩
    simp [assigns, named] at assigned
  | some other =>
    cases recorded : (turn.performed ledger).2.1.recorded with
    | none =>
      refine ⟨fun pickupId assigned => ?_,
        fun _ => congrArg (·.request? name) (untouched (.inr recorded))⟩
      simp [assigns, recorded] at assigned
    | some pickupId =>
      have through : (turn.performed ledger).2.2.ledger = ledger.record other pickupId :=
        (turn.desk ledger).ledger_after turn.operation _ _ named recorded
      simp only [through, assigns, named, recorded, Option.some.injEq, Ledger.request?_record]
      by_cases same : name = other
      · subst same
        simp
      · simp [same, Ne.symm same]

end Turn

/-- The named request is retrieved by a pickup id: it has that one, and no id of a certificate. -/
def Ledger.PickedUp (ledger : Ledger) (name pickupId : String) : Prop :=
  ∃ request, ledger.request? name = some request ∧ filled? request.certificateId = none ∧
    filled? request.pickupId = some pickupId

/-- A turn that does not submit a request leaves the pickup id by which it is retrieved. -/
theorem Turn.pickedUp_performed {turn : Turn} {ledger : Ledger} {name pickupId : String}
    (pickedUp : ledger.PickedUp name pickupId)
    (unsubmitted : ∀ other, ¬ turn.Returns ledger name other) :
    (turn.performed ledger).2.2.ledger.PickedUp name pickupId := by
  obtain ⟨request, found, uncertified, submitted⟩ := pickedUp
  have unassigned : ∀ other, ¬ turn.Assigns ledger name other := by
    intro other assigns
    rcases assigns with returns | resolves
    · exact unsubmitted other returns
    · -- A thumbprint leads nowhere as long as there is a pickup id.
      have empty := resolves.led.unsubmitted
      rw [found, Option.getD_some, submitted] at empty
      cases empty
  exact ⟨request, ((turn.request?_performed ledger name).2 unassigned).trans found, uncertified,
    submitted⟩

/-- The pickup id by which a request is retrieved stays through all turns that do not submit it. -/
theorem Ledger.pickedUp_after {ledger : Ledger} {name pickupId : String} {turns : List Turn}
    (pickedUp : ledger.PickedUp name pickupId)
    (unsubmitted : ∀ earlier turn later, turns = earlier ++ turn :: later →
      ∀ other, ¬ turn.Returns (ledger.after earlier) name other) :
    (ledger.after turns).PickedUp name pickupId := by
  -- The induction is on the turns to come, and the ledger moves along with them.
  induction turns generalizing ledger with
  | nil => exact pickedUp
  | cons turn rest ih =>
    -- The first turn keeps it, and the rest is a run from where that turn leads.
    have kept := Turn.pickedUp_performed pickedUp (unsubmitted [] turn rest rfl)
    apply ih kept
    intro earlier other later split
    exact unsubmitted (turn :: earlier) other later (congrArg (turn :: ·) split)

/-- A retrieval of a request with a pickup id polls that id. -/
theorem Turn.polls_of_pickedUp {turn : Turn} {ledger : Ledger} {name pickupId : String}
    {session : Session} (pickedUp : ledger.PickedUp name pickupId)
    (retrieves : turn.operation = .retrieve name) (present : turn.session = some session)
    (company : session.account.company.isSome) :
    Polls session pickupId (turn.performed ledger).2.1.sent := by
  obtain ⟨request, found, uncertified, submitted⟩ := pickedUp
  rcases turn with ⟨manager, now, _, operation, arrivals⟩
  cases retrieves
  cases present
  obtain ⟨_, dialogue⟩ :=
    performed_of_map ⟨manager, now, some session, .retrieve name, arrivals⟩ ledger rfl
  have known : (ledger.request? name).getD {} = request := by rw [found, Option.getD_some]
  rw [dialogue]
  show Polls session pickupId ((manager.retrieveCertificate (some session)
    ((ledger.request? name).getD {})).on arrivals).2.sent
  rw [known]
  exact Manager.polls_retrieveCertificate manager company uncertified submitted arrivals

/--
A turn changes the pickup id of a request only if it assigns one, and it changes nothing else.

It is assigned by a submission that returns, or by a retrieval that a thumbprint leads to a request.
What a submission returns is the first id of its receipt, and is polled from then on.
That goes on until another submission of the same request returns.
-/
theorem Ledger.after_assigns_pickups (start : Ledger) (before : List Turn) (turn : Turn)
    (name : String) :
    let ledger := start.after before
    let next := start.after (before ++ [turn])
    (∀ pickupId, turn.Assigns ledger name pickupId → next.request? name =
      (ledger.request? name).map fun request => { request with pickupId := some pickupId }) ∧
    ((∀ pickupId, ¬ turn.Assigns ledger name pickupId) →
      next.request? name = ledger.request? name) ∧
    (∀ pickupId, turn.Returns ledger name pickupId →
      Manager.Receipted turn.arrivals (turn.performed ledger).2.1.sent pickupId) ∧
    ∀ pickupId request, turn.Returns ledger name pickupId → pickupId ≠ "" →
      ledger.request? name = some request → filled? request.certificateId = none →
      ∀ others : List Turn, (∀ earlier other later, others = earlier ++ other :: later →
          ∀ otherId, ¬ other.Returns (next.after earlier) name otherId) →
        ∀ (retrieval : Turn) (session : Session), retrieval.operation = .retrieve name →
          retrieval.session = some session → session.account.company.isSome →
            Polls session pickupId (retrieval.performed (next.after others)).2.1.sent := by
  intro ledger next
  have step : next = (turn.performed ledger).2.2.ledger := by
    simp only [next, after, List.foldl_append]
    rfl
  obtain ⟨assigned, kept⟩ := turn.request?_performed ledger name
  rw [step]
  refine ⟨assigned, kept, fun pickupId returns => ?_, ?_⟩
  · exact (Turn.performed_of_submits returns.submits pickupId).2 returns.returned
  · intro pickupId request returns filled found uncertified others quiet retrieval session
      retrieves present company
    -- Behind its submission, the request is retrieved by the id that has been returned.
    have pickedUp : (turn.performed ledger).2.2.ledger.PickedUp name pickupId := by
      refine ⟨{ request with pickupId := some pickupId }, ?_, uncertified,
        filled?_eq_some.mpr ⟨rfl, filled⟩⟩
      rw [assigned pickupId (.inl returns), found]
      rfl
    exact Turn.polls_of_pickedUp (Ledger.pickedUp_after pickedUp quiet) retrieves present company

end Issuance
