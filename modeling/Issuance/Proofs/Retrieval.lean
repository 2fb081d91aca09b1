import Issuance.Lifecycle.Retrieval
import Issuance.Proofs.Chain
import Issuance.Proofs.Manager
import Issuance.Proofs.Polling

/-! A retrieval takes the first certificate it receives for the leaf, whatever order it asks for. -/

namespace Issuance

/-- The certificates of a chain in an order; the chain itself has the leaf first. -/
def ChainOrder.arrange {α : Type} : ChainOrder → List α → List α
  | .leafFirst, chain => chain
  | .rootFirst, chain => chain.reverse

/-- The certificate that comes first in an order: the leaf, or the end of its chain. -/
def ChainOrder.foremost {α : Type} : ChainOrder → α → List α → α
  | .leafFirst, leaf, _ => leaf
  | .rootFirst, leaf, issuers => issuers.getLast?.getD leaf

/-- The foremost certificate is the first of those in an order. -/
theorem ChainOrder.head?_arrange {α : Type} (order : ChainOrder) (leaf : α) (issuers : List α) :
    (order.arrange (leaf :: issuers)).head? = some (order.foremost leaf issuers) := by
  cases order with
  | leafFirst => rfl
  | rootFirst =>
    simp only [arrange, foremost, List.head?_reverse]
    -- A leaf without issuers is its own root.
    cases issuers with
    | nil => rfl
    | cons issuer issuers => simp [List.getLast?_cons]

/--
A service that has issued a certificate says so.

It sends the certificate with its chain, in the order that it is asked for.
-/
structure ServesChain (service : Call → Reply → Prop) (session : Session)
    (pickupId certificateId : String) (chain : List X509.Certificate) : Prop where
  filled : certificateId ≠ ""
  issued : ∀ reply, service (.status session pickupId) reply →
    ∃ status, reply.Tells RequestStatus.check 200 status ∧ status.state = .issued ∧
      status.certificateId = certificateId
  sends : ∀ order reply, service (.contents session certificateId order) reply →
    ∃ response, reply = .response response ∧ response.status = 200 ∧
      X509.Certificate.allOfText? response.body = some (order.arrange chain)

namespace Polling

/-- A wait ends with its first read if that tells of a certificate. -/
theorem hold_awaitIssuance_issued (sleeper : Sleeper) (session : Session) {requestId : String}
    (filled : requestId ≠ "") (interval timeout : Double) {dialogue : Dialogue} {arrival : Arrival}
    {rest : List Arrival}
    {status : RequestStatus} (next : dialogue.arrivals = arrival :: rest)
    (told : arrival.reply.Tells RequestStatus.check 200 status) (issued : status.state = .issued)
    (certified : status.certificateId ≠ "") :
    ∃ later, (awaitIssuance sleeper (some session) interval (some requestId) timeout).hold dialogue =
        (.ok (some status.certificateId), later) ∧
      later.sent = dialogue.sent ++ [.status session requestId] ∧ later.arrivals = rest := by
  -- The first reading is final, whatever the clock shows by then.
  have learned : (Reading.of dialogue.clock arrival).status = .ok status :=
    (Reply.learned_decode_eq_ok _).mpr told
  have final : (Reading.of dialogue.clock arrival).Final := by
    unfold Reading.Final
    rw [learned]
    simp [issued, IssuanceState.inFlight]
  have first : FirstSettled (fun _ => Reading.Late timeout dialogue.clock)
      (readings interval dialogue.clock dialogue.arrivals) 0 (.of dialogue.clock arrival) := by
    rw [next]
    exact ⟨rfl, .inl final, fun before early => absurd early (Nat.not_lt_zero before)⟩
  -- Before the first read there is no sleep that could be refused.
  have none : 0 < 0 → sleeper interval = none := fun before => absurd before (Nat.lt_irrefl 0)
  obtain ⟨log, held⟩ := endsWith_of_firstSettled session filled none first
  -- Its status is issued and has a certificate, and that is all the wait has to say.
  have verdict : (Reading.of dialogue.clock arrival).verdict requestId timeout =
      .ok (some status.certificateId) := by
    simp [Reading.verdict, Reading.concluded, learned, issued, certified]
  rw [verdict] at held
  exact ⟨_, held, rfl, by simp [next]⟩

end Polling

namespace Manager

section Fetch

variable (session : Session) (request : CertificateRequest) (pickupId certificateId : String)
  {dialogue : Dialogue}

/-- What is made of a body is the collection in it, in the order in which it is received. -/
def collected (body : Bytes) : Outcome PemCollection :=
  match PemCollection.ofText? body with
  | none => .error .unreadableChain
  | some collection => .ok collection

/-- Making a collection of a body adds to the log alone. -/
theorem hold_assemble (body : Bytes) (option : ChainOption) (dialogue : Dialogue) :
    ∃ log, (Chain.assemble body option).hold dialogue =
      ((collected body).mapError .failed, { dialogue with log }) := by
  unfold Chain.assemble collected
  -- Only a body that reads as a collection is worth a line in the log.
  cases PemCollection.ofText? body with
  | none => exact ⟨dialogue.log, rfl⟩
  | some collection => exact ⟨_, rfl⟩

/-- Making a collection of a body calls nothing. -/
theorem extends_assemble (body : Bytes) (option : ChainOption) :
    (Chain.assemble body option).Extends := by
  unfold Chain.assemble
  -- Text that is no collection fails at once, and any other is logged first.
  split
  · exact .fail _
  · exact (Run.Extends.log _ _ _).bind fun _ => .pure _

/-- Fetching a chain starts with the call for its contents, in the order the request wants. -/
theorem begins_fetchChain :
    (fetchChain session request pickupId certificateId).Begins
      (.contents session certificateId request.chainOption.order) := by
  apply Run.Begins.bind (.of_call fun dialogue => Client.hold_contents session dialogue _ _)
  -- What is made of the response calls nothing, whether it fails or not.
  intro response
  split
  · exact (Run.Extends.log _ _ _).bind fun _ => .fail _
  · split
    · exact .fail _
    · exact (extends_assemble _ _).bind fun _ => (Run.Extends.ofOutcome _).bind fun _ =>
        (Run.Extends.log _ _ _).bind fun _ => .pure _

/-- What the fetch of a chain makes of the response to its call. -/
def chainFrom (request : CertificateRequest) (pickupId : String) (response : Response) :
    Outcome PemCollection :=
  if response.status = 409 then .error (.pending pickupId (some IssuanceState.issued.word))
  else if response.status ≠ 200 then .error (.retrievalRefused response)
  else (collected response.body).bind fun collection =>
    (Chain.verifyLeaf request collection).map fun _ => collection

/-- The fetch of a chain is one call, and the judgement on its response. -/
theorem hold_fetchChain (dialogue : Dialogue) :
    ∃ log, (fetchChain session request pickupId certificateId).hold dialogue =
      (dialogue.learns (chainFrom request pickupId), { dialogue.called
        (.contents session certificateId request.chainOption.order) with log }) := by
  have fetched := Client.hold_contents session dialogue certificateId request.chainOption.order
  rw [Dialogue.learns_eq_bind]
  unfold fetchChain
  cases learned : dialogue.learns .ok with
  | error stop =>
    rw [learned] at fetched
    exact ⟨_, Run.hold_bind_error fetched⟩
  | ok response =>
    rw [learned] at fetched
    rw [Run.hold_bind_ok fetched]
    simp only [Except.bind, chainFrom]
    -- Two of the statuses end the fetch before the chain is read.
    by_cases unsigned : response.status = 409
    · simp only [if_pos unsigned]
      exact ⟨_, rfl⟩
    · by_cases refused : response.status ≠ 200
      · simp only [if_neg unsigned, if_pos refused]
        exact ⟨_, rfl⟩
      · simp only [if_neg unsigned, if_neg refused]
        obtain ⟨log, assembled⟩ := hold_assemble response.body request.chainOption
          (dialogue.called (.contents session certificateId request.chainOption.order))
        cases read : collected response.body with
        | error failure =>
          rw [read] at assembled
          exact ⟨log, Run.hold_bind_error assembled⟩
        | ok collection =>
          rw [read] at assembled
          rw [Run.hold_bind_ok assembled]
          dsimp only
          -- What is left is the check of the leaf, and its outcome is that of the fetch.
          cases Chain.verifyLeaf request collection <;> exact ⟨_, rfl⟩

/-- Of a chain that is received, its first certificate is checked as the leaf. -/
theorem chainFrom_of_received {response : Response} {first : X509.Certificate}
    {others : List X509.Certificate} (ok : response.status = 200)
    (received : X509.Certificate.allOfText? response.body = some (first :: others)) :
    chainFrom request pickupId response =
      (Chain.verifyLeaf request ⟨first.text, others.map X509.Certificate.text⟩).map fun _ =>
        ⟨first.text, others.map X509.Certificate.text⟩ := by
  -- The body reads as the collection of what is received, so that the check of its leaf is left.
  have read : collected response.body = .ok ⟨first.text, others.map X509.Certificate.text⟩ := by
    unfold collected
    rw [PemCollection.ofText?_eq_some.mpr ⟨first, others, received, rfl⟩]
  simp [chainFrom, ok, read, Except.bind]

/-- A chain that is received is handed on exactly if its first certificate passes for the leaf. -/
theorem hold_fetchChain_of_received {arrival : Arrival} {rest : List Arrival} {response : Response}
    {first : X509.Certificate} {others : List X509.Certificate}
    (next : dialogue.arrivals = arrival :: rest) (answered : arrival.reply = .response response)
    (ok : response.status = 200)
    (received : X509.Certificate.allOfText? response.body = some (first :: others)) :
    ∃ later, (fetchChain session request pickupId certificateId).hold dialogue =
        ((Chain.verifyLeaf request ⟨first.text, others.map X509.Certificate.text⟩).mapError
            Stop.failed |>.map fun _ => ⟨first.text, others.map X509.Certificate.text⟩, later) ∧
      later.sent =
        dialogue.sent ++ [.contents session certificateId request.chainOption.order] := by
  obtain ⟨log, fetched⟩ := hold_fetchChain session request pickupId certificateId dialogue
  let asked := dialogue.called (.contents session certificateId request.chainOption.order)
  refine ⟨{ asked with log }, fetched.trans ?_, Dialogue.called_sent ..⟩
  rw [Dialogue.learns_cons next, answered]
  simp only [Reply.learned, Reply.answer, Except.bind,
    chainFrom_of_received request pickupId ok received]
  cases Chain.verifyLeaf request ⟨first.text, others.map X509.Certificate.text⟩ <;> rfl

end Fetch

section Submitted

variable {manager : Manager} {session : Session} {request : CertificateRequest} {pickupId : String}

/-- A request with a pickup id, and with no id of a certificate, is retrieved as a submitted one. -/
theorem hold_retrieveCertificate_submitted (company : session.account.company.isSome)
    (uncertified : filled? request.certificateId = none)
    (submitted : filled? request.pickupId = some pickupId) (dialogue : Dialogue) :
    (manager.retrieveCertificate (some session) request).hold dialogue =
      (manager.retrieveSubmitted session request pickupId).hold dialogue := by
  unfold retrieveCertificate
  rw [Run.hold_bind_ok (hold_authenticated company "retrieve a certificate" dialogue), uncertified,
    submitted]

/-- What follows on a wait takes nothing back. -/
theorem extends_afterWait (session : Session) (request : CertificateRequest) (pickupId : String)
    (waited : Option String) :
    (match waited with
      | none => Run.fail (.issuanceWithoutId pickupId)
      | some certificateId => fetchChain session request pickupId certificateId).Extends := by
  cases waited with
  -- Only with the id of a certificate is there something to fetch.
  | none => exact .fail _
  | some certificateId => exact (begins_fetchChain session request pickupId certificateId).toExtends

/-- The retrieval of a submitted request starts with reading its status. -/
theorem begins_retrieveSubmitted (filled : pickupId ≠ "") :
    (manager.retrieveSubmitted session request pickupId).Begins (.status session pickupId) :=
  (Polling.begins_awaitIssuance _ session manager.pollInterval filled request.patience).bind
    (extends_afterWait session request pickupId)

/-- What a service has issued is handed on exactly if the first certificate passes for the leaf. -/
theorem hold_retrieveSubmitted_of_issued {leaf : X509.Certificate} {issuers : List X509.Certificate}
    {certificateId : String} {service : Call → Reply → Prop} {dialogue : Dialogue}
    (filled : pickupId ≠ "")
    (serves : ServesChain service session pickupId certificateId (leaf :: issuers))
    (answered : Dialogue.AnsweredBy service dialogue
      ((manager.retrieveSubmitted session request pickupId).hold dialogue).2) :
    ∃ first others later, request.chainOption.order.arrange (leaf :: issuers) = first :: others ∧
      first.WellFormed ∧
      (manager.retrieveSubmitted session request pickupId).hold dialogue =
        ((Chain.verifyLeaf request ⟨first.text, others.map X509.Certificate.text⟩).mapError
            Stop.failed |>.map fun _ => ⟨first.text, others.map X509.Certificate.text⟩, later) ∧
      later.sent = dialogue.sent ++ [.status session pickupId,
        .contents session certificateId request.chainOption.order] := by
  -- The first call reads the status, and the wait ends with what it tells.
  obtain ⟨statusRead, rest, next, told⟩ := answered.next (begins_retrieveSubmitted filled)
  obtain ⟨status, told, issued, rfl⟩ := serves.issued statusRead.reply told
  obtain ⟨waited, wait, sent, left⟩ := Polling.hold_awaitIssuance_issued manager.sleeper session filled
    manager.pollInterval request.patience next told issued serves.filled
  unfold retrieveSubmitted at answered ⊢
  rw [Run.hold_bind_ok wait] at answered ⊢
  -- The second call fetches the chain, in the order the request wants.
  have after := answered.after sent (by rw [left, next]; rfl)
  obtain ⟨contentsRead, _, next, told⟩ := after.next (begins_fetchChain _ _ _ _)
  obtain ⟨response, answer, ok, received⟩ := serves.sends _ contentsRead.reply told
  -- There is a first certificate in every order, as there is a leaf.
  obtain ⟨others, arranged⟩ :=
    List.head?_eq_some_iff.mp (request.chainOption.order.head?_arrange leaf issuers)
  rw [arranged] at received
  have wellFormed := X509.Certificate.wellFormed_of_allOfText? received _ List.mem_cons_self
  obtain ⟨later, fetched, sentLater⟩ :=
    hold_fetchChain_of_received session request pickupId _ next answer ok received
  exact ⟨_, others, later, arranged, wellFormed, fetched, by rw [sentLater, sent]; simp⟩

/--
A retrieval hands on what a service has issued exactly if the foremost certificate has the key.

The key is that of the leaf and of the request, so that a chain with the leaf first is handed on.
With the root first it is the root's key that is compared, and most roots have another one.
-/
theorem retrieveCertificate_checks_foremost {csr : String} {key : X509.PublicKey}
    {leaf : X509.Certificate} {issuers : List X509.Certificate} {certificateId : String}
    {service : Call → Reply → Prop} (company : session.account.company.isSome)
    (uncertified : filled? request.certificateId = none)
    (submitted : filled? request.pickupId = some pickupId) (signs : request.SignsFor csr key)
    (carries : leaf.subjectKey.key? = some key)
    (serves : ServesChain service session pickupId certificateId (leaf :: issuers))
    (arrivals : List Arrival) :
    let order := request.chainOption.order
    let foremost := order.foremost leaf issuers
    let held := (manager.retrieveCertificate (some session) request).on arrivals
    Dialogue.AnsweredBy service { arrivals } held.2 →
      held.2.sent = [.status session pickupId, .contents session certificateId order] ∧
      ∃ collection : PemCollection,
        collection.blocks = (order.arrange (leaf :: issuers)).map X509.Certificate.text ∧
        collection.certificate = foremost.text ∧
        (held.1 = .ok collection ↔ foremost.subjectKey.key? = some key) ∧
        (∀ carried, foremost.subjectKey.key? = some carried → carried ≠ key →
          held.1 = .error (.failed (.wrongKey request.pickupId))) ∧
        (foremost.subjectKey.key? = none → held.1 = .error (.failed .unreadableCsr)) ∧
        (request.chainOption ≠ .rootFirst → foremost = leaf ∧ held.1 = .ok collection) := by
  intro order foremost held answered
  simp only [held, Run.on_eq_hold] at answered ⊢
  rw [hold_retrieveCertificate_submitted company uncertified submitted] at answered ⊢
  obtain ⟨first, others, later, arranged, wellFormed, fetched, sent⟩ :=
    hold_retrieveSubmitted_of_issued (filled?_eq_some.mp submitted).2 serves answered
  -- Both are the head of the chain in the order that was asked for.
  have isFirst : foremost = first := by
    have head := request.chainOption.order.head?_arrange leaf issuers
    rw [arranged] at head
    exact (Option.some.inj head).symm
  -- The check compares keys, so that each of the claims is about the key of the first certificate.
  rw [Chain.verifyLeaf_text signs wellFormed] at fetched
  rw [fetched, isFirst]
  -- Only one of the three options has an order that does not begin with the leaf.
  have leafFirst : request.chainOption ≠ .rootFirst → first = leaf := by
    intro notRootFirst
    rw [← isFirst]
    simp only [foremost, order]
    cases option : request.chainOption with
    | rootFirst => exact absurd option notRootFirst
    | rootLast | ignore => rfl
  refine ⟨sent, ⟨first.text, others.map X509.Certificate.text⟩, ?_, rfl, ?_, ?_, ?_, ?_⟩
  · -- The blocks are those of all certificates, in the order they were received in.
    rw [arranged]
    rfl
  · cases carried : first.subjectKey.key? with
    | none => simp [Except.map]
    | some found =>
      by_cases same : key = found
      · simp [same, Except.map]
      · simp [same, Except.map, Ne.symm same]
  · intro carried carries differs
    simp [carries, differs.symm, Except.map]
  · intro unreadable
    simp [unreadable, Except.map]
  · intro notRootFirst
    rw [leafFirst notRootFirst, carries]
    simp [Except.map]

end Submitted

/-- An Ed25519 key with the same byte all over. -/
def bareKey (byte : UInt8) : X509.EncodedKey where
  algorithm := ⟨X509.Algorithm.ed25519, .absent⟩
  key := List.replicate 32 byte
  encoding := [48, 42, 48, 5, 6, 3, 43, 101, 112, 3, 33, 0] ++ List.replicate 32 byte

/-- The least that a certificate for such a key consists of. -/
def bareCertificate (byte : UInt8) : X509.Certificate where
  der := [48, 102, 48, 90, 2, 1, 1, 48, 5, 6, 3, 43, 101, 112, 48, 0, 48, 30] ++
    [23, 13] ++ Pem.ascii "260101000000Z" ++ [23, 13] ++ Pem.ascii "260101000000Z" ++ [48, 0] ++
    (bareKey byte).encoding ++ [48, 5, 6, 3, 43, 101, 112, 3, 1, 0]
  subjectKey := bareKey byte

/-- The least that a signing request for such a key consists of, as text. -/
def bareRequest (byte : UInt8) : String := Pem.Block.text ⟨"CERTIFICATE REQUEST",
  [48, 63, 48, 51, 2, 1, 0, 48, 0] ++ (bareKey byte).encoding ++
    [160, 0, 48, 5, 6, 3, 43, 101, 112, 3, 1, 0]⟩

/-- A reply that a request is issued. -/
def issuedReply : Reply := .response ⟨200, "OK",
  Utf8.encode "\x7b\"status\":\"ISSUED\",\"certificateIds\":[\"cert-1\"]\x7d"⟩

/-- A reply that sends two certificates in an order. -/
def contentsReply (order : ChainOrder) : Reply := .response ⟨200, "OK",
  (order.arrange [bareCertificate 7, bareCertificate 9]).flatMap fun c => Utf8.encode c.text⟩

/-- The reply that a request is issued tells of its certificate. -/
theorem issuedReply_tells : ∃ status, issuedReply.Tells RequestStatus.check 200 status ∧
    status.state = .issued ∧ status.certificateId = "cert-1" := by
  have read : (match readBody RequestStatus.check
      (Utf8.encode "\x7b\"status\":\"ISSUED\",\"certificateIds\":[\"cert-1\"]\x7d") with
    | .valid status => status.state == .issued && status.certificateId == "cert-1"
    | .invalid _ => false) = true := by decide +kernel
  -- What passes the check is a status with the two properties that have been looked at.
  split at read
  · next status valid =>
    rw [Bool.and_eq_true, beq_iff_eq, beq_iff_eq] at read
    exact ⟨status, ⟨_, rfl, rfl, valid⟩, read⟩
  · cases read

/-- Two such certificates read as themselves. -/
theorem wellFormed_bareCertificate :
    ∀ certificate ∈ [bareCertificate 7, bareCertificate 9], certificate.WellFormed := by
  intro certificate member
  unfold X509.Certificate.WellFormed
  simp only [List.mem_cons, List.not_mem_nil, or_false] at member
  rcases member with rfl | rfl <;> decide +kernel

/-- The two certificates that are sent are read in the order they are sent in. -/
theorem contentsReply_received (order : ChainOrder) : ∃ body,
    contentsReply order = .response ⟨200, "OK", body⟩ ∧ X509.Certificate.allOfText? body =
      some (order.arrange [bareCertificate 7, bareCertificate 9]) := by
  -- The two certificates read as themselves, and so do their texts in either order.
  refine ⟨_, rfl, X509.Certificate.allOfText?_texts ?_⟩
  cases order with
  | leafFirst => exact wellFormed_bareCertificate
  | rootFirst => exact fun c member => wellFormed_bareCertificate c (List.mem_reverse.mp member)

/-- The least signing request is for the key of the certificate with the same byte. -/
theorem signsFor_bareRequest {request : CertificateRequest}
    (holds : request.csr = some (bareRequest 7)) :
    request.SignsFor (bareRequest 7) (.ed25519 (List.replicate 32 7)) ∧
      (bareCertificate 7).subjectKey.key? = some (.ed25519 (List.replicate 32 7)) :=
  ⟨⟨holds, by decide +kernel, ⟨bareKey 7⟩, by decide +kernel, by decide +kernel⟩, by decide +kernel⟩

/-- A service that has issued a certificate with a chain of one. -/
inductive IssuedPair (session : Session) : Call → Reply → Prop
  | status : IssuedPair session (.status session "req-1") issuedReply
  | contents (order : ChainOrder) :
      IssuedPair session (.contents session "cert-1" order) (contentsReply order)

/-- A chain with the root first is refused, although its leaf carries the key signed for. -/
theorem retrieveCertificate_refuses_rootFirst :
    let session : Session := ⟨"key", { company := some ⟨"co-1", "Example"⟩ }⟩
    let manager : Manager := ⟨none, .ofInt 2, .ofInt 1, "host", .system⟩
    let request : CertificateRequest :=
      { csr := some (bareRequest 7), pickupId := some "req-1", chainOption := .rootFirst }
    let arrivals : List Arrival :=
      [⟨.zero, issuedReply⟩, ⟨.zero, contentsReply .rootFirst⟩]
    ((manager.retrieveCertificate (some session) request).on arrivals).1 =
      .error (.failed (.wrongKey (some "req-1"))) := by
  intro session manager request arrivals
  obtain ⟨signs, carries⟩ := signsFor_bareRequest (rfl : request.csr = some (bareRequest 7))
  obtain ⟨status, told, issued, certified⟩ := issuedReply_tells
  have serves : ServesChain (IssuedPair session) session "req-1" "cert-1"
      [bareCertificate 7, bareCertificate 9] := by
    refine ⟨by decide, fun reply given => ?_, fun order reply given => ?_⟩
    · -- A read of the status is answered by the service's one status.
      generalize asked : Call.status session "req-1" = call at given
      cases given with
      | status => exact ⟨status, told, issued, certified⟩
      | contents order => exact absurd asked Call.status_ne_contents
    · -- A fetch is answered in the order it asks for, which its call tells.
      generalize asked : Call.contents session "cert-1" order = call at given
      cases given with
      | status => exact absurd asked.symm Call.status_ne_contents
      | contents other =>
        obtain ⟨body, answer, received⟩ := contentsReply_received other
        exact ⟨_, answer, rfl, Call.contents_injective asked ▸ received⟩
  have answered : Dialogue.AnsweredBy (IssuedPair session) { arrivals }
      ((manager.retrieveCertificate (some session) request).on arrivals).2 := by
    -- The two replies are taken by the read of the status and by the fetch of the contents.
    have next : ({ arrivals } : Dialogue).arrivals = ⟨.zero, issuedReply⟩ :: _ := rfl
    obtain ⟨waited, wait, sent, left⟩ := Polling.hold_awaitIssuance_issued manager.sleeper session
      (by decide : "req-1" ≠ "") manager.pollInterval request.patience next told issued
      (by rw [certified]; decide)
    obtain ⟨body, answer, rootFirst⟩ := contentsReply_received .rootFirst
    obtain ⟨later, fetched, sentLater⟩ :=
      hold_fetchChain_of_received session request "req-1" "cert-1" left answer rfl rootFirst
    rw [certified] at wait
    have submitted : filled? request.pickupId = some "req-1" := by decide
    rw [Run.on_eq_hold, hold_retrieveCertificate_submitted rfl (by decide) submitted,
      retrieveSubmitted, Run.hold_bind_ok wait, fetched]
    intro position call found
    rw [sentLater, sent] at found
    match position, found with
    | 0, rfl => exact ⟨_, rfl, .status⟩
    | 1, rfl => exact ⟨_, rfl, .contents .rootFirst⟩
  have submitted : filled? request.pickupId = some "req-1" := by decide
  -- The root has come first, and it carries another key.
  obtain ⟨_, _, _, _, _, refused, _⟩ := retrieveCertificate_checks_foremost rfl (by decide)
    submitted signs carries serves arrivals answered
  exact refused (.ed25519 (List.replicate 32 9)) (by decide +kernel) (by decide)

end Manager

end Issuance
