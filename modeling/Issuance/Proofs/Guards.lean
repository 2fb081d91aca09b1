import Issuance.Proofs.Closure
import Issuance.Proofs.FailFast
import Issuance.Proofs.Identifier

/-! Retrieval is guarded against parts of its own that give it nothing, which they never do. -/

namespace Issuance

/-- Whatever certificates are found, a fingerprint that is resolved leads to a request or a certificate. -/
theorem Resolution.certificateId_of_resolved {session : Session} {thumbprint : String}
    {dialogue later : Dialogue} {found : FingerprintMatch}
    (resolved : (resolveFingerprint session thumbprint).hold dialogue = (.ok found, later))
    (unnamed : filled? (some found.requestId) = none) : found.certificateId ≠ none := by
  unfold resolveFingerprint at resolved
  -- Behind the search and the line in the log, the match is the judgement on what was found.
  obtain ⟨result, _, _, resolved⟩ := Run.hold_bind_eq_ok resolved
  obtain ⟨_, _, _, resolved⟩ := Run.hold_bind_eq_ok resolved
  have judged := (Run.hold_ofOutcome_eq_ok.mp resolved).1
  exact FingerprintMatch.certificateId_of_ofSummaries judged unnamed

/-- A request that names nothing to retrieve. -/
structure CertificateRequest.NamesNothing (request : CertificateRequest) : Prop where
  unsubmitted : filled? request.pickupId = none
  uncertified : filled? request.certificateId = none
  unprinted : filled? request.thumbprint = none

namespace Manager

section Unguarded

variable (manager : Manager)

/-- Waits for the issuance of a submitted request, and fetches by what the wait gives as it is. -/
def pollUnguarded (session : Session) (request : CertificateRequest) (pickupId : String) :
    Run PemCollection := do
  let issued ← Polling.awaitIssuance manager.sleeper (some session) manager.pollInterval (some pickupId)
    request.patience
  -- A wait that gave nothing would be a fetch without an id.
  fetchChain session request pickupId (issued.getD "")

/-- Retrieves what a thumbprint resolves to: its request, or else by the match as it is. -/
def matchUnguarded (session : Session) (request : CertificateRequest) (thumbprint : String) :
    Run PemCollection := do
  let found ← Resolution.resolveFingerprint session thumbprint
  match filled? (some found.requestId) with
  | some pickupId =>
    Run.recordPickup pickupId
    manager.pollUnguarded session { request with pickupId := some pickupId } pickupId
  | none => fetchCertificate session (found.certificateId.getD "")

/-- The retrieval of a certificate, without the guards against an empty match and an empty wait. -/
def retrieveUnguarded (session : Option Session) (request : CertificateRequest) :
    Run PemCollection := do
  let session ← Run.ofOutcome (authenticated session "retrieve a certificate")
  match filled? request.certificateId, filled? request.pickupId, filled? request.thumbprint with
  | some certificateId, _, _ => fetchCertificate session certificateId
  | none, some pickupId, _ => manager.pollUnguarded session request pickupId
  | none, none, some thumbprint => manager.matchUnguarded session request thumbprint
  | none, none, none => Run.fail .nothingToRetrieve

/-- A wait for a request gives a certificate, so that it needs no guard. -/
theorem hold_pollUnguarded (session : Session) (request : CertificateRequest) {pickupId : String}
    (filled : pickupId ≠ "") (dialogue : Dialogue) :
    (manager.pollUnguarded session request pickupId).hold dialogue =
      (manager.retrieveSubmitted session request pickupId).hold dialogue := by
  unfold pollUnguarded retrieveSubmitted
  apply Run.hold_bind_congr
  intro issued later waited
  -- Only where there is nothing to wait for does a wait give nothing.
  obtain ⟨unnamed, _⟩ | ⟨certificateId, rfl, _⟩ := Polling.issued_of_hold_awaitIssuance waited
  · rw [filled?_eq_some.mpr ⟨rfl, filled⟩] at unnamed
    cases unnamed
  · rfl

/-- A match leads to a request or to a certificate, so that it needs no guard. -/
theorem hold_matchUnguarded (session : Session) (request : CertificateRequest) (thumbprint : String)
    (dialogue : Dialogue) :
    (manager.matchUnguarded session request thumbprint).hold dialogue =
      (manager.retrieveByThumbprint session request thumbprint).hold dialogue := by
  unfold matchUnguarded retrieveByThumbprint
  apply Run.hold_bind_congr
  intro found middle resolved
  cases named : filled? (some found.requestId) with
  | some pickupId =>
    -- The request is recorded in either run, and its wait needs no guard.
    apply Run.hold_bind_congr
    intro _ later _
    exact hold_pollUnguarded manager session _ (filled?_eq_some.mp named).2 later
  | none =>
    obtain ⟨certificateId, certified⟩ :=
      Option.ne_none_iff_exists'.mp (Resolution.certificateId_of_resolved resolved named)
    rw [certified]
    rfl

/-- Without its guards, a retrieval is the same run from wherever the dialogue stands. -/
theorem hold_retrieveUnguarded (session : Option Session) (request : CertificateRequest)
    (dialogue : Dialogue) :
    (manager.retrieveUnguarded session request).hold dialogue =
      (manager.retrieveCertificate session request).hold dialogue := by
  unfold retrieveUnguarded retrieveCertificate
  apply Run.hold_bind_congr
  intro account later _
  -- The cases are those of the retrieval, in the order in which it looks at its request.
  cases filled? request.certificateId with
  | some certificateId => rfl
  | none =>
    cases submitted : filled? request.pickupId with
    | some pickupId =>
      exact hold_pollUnguarded manager account request (filled?_eq_some.mp submitted).2 later
    | none =>
      cases filled? request.thumbprint with
      | some thumbprint => exact hold_matchUnguarded manager account request thumbprint later
      | none => rfl

end Unguarded

end Manager

/-- The message of a note is that of a guard, against an empty match or against an empty wait. -/
def Note.OfGuard (note : Note) : Prop :=
  ∃ text, note.message = (Failure.emptyMatch text).note.message ∨
    note.message = (Failure.issuanceWithoutId text).note.message

/-- A guard has the same message for every thumbprint, and for every pickup id. -/
theorem Note.ofGuard_iff {note : Note} : note.OfGuard ↔
    note.message = "Fingerprint match has neither a request id nor a certificate id" ∨
      note.message = "Issuance finished without a certificate id" :=
  ⟨fun ⟨_, same⟩ => same, fun same => ⟨"", same⟩⟩

section Messages

variable {arrivals : List Arrival} {sent : List Call} {note : Note} {faults : List Fault}

/-- What cannot be read of a response is told by another message than that of a guard. -/
theorem Unread.not_ofGuard (unread : Unread arrivals sent (.decoding note faults)) :
    ¬ note.OfGuard := by
  rw [Note.ofGuard_iff]
  cases unread with
  | body told read =>
    -- The message names the operation, so that there is one for each kind of call.
    cases read <;> decide
  | chain => decide
  | issued =>
    dsimp only
    decide

/-- Keys that cannot be compared are told by another message than that of a guard. -/
theorem Manager.Irretrievable.not_ofGuard {manager : Manager} {csr : Option String}
    (given : manager.Irretrievable csr arrivals sent (.failed (.decoding note faults))) :
    ¬ note.OfGuard := by
  rw [Note.ofGuard_iff]
  cases given with
  -- Whichever of the two keys is at fault, it is the signing request that the message is about.
  | keys incomparable => cases incomparable <;> decide
  | interval unslept => cases unslept

end Messages

namespace Manager

variable {manager : Manager} {session : Option Session} {request : CertificateRequest}
  {note : Note}

/-- What a retrieval fails to decode is never told by the message of a guard. -/
theorem not_ofGuard_of_undecoded {arrivals : List Arrival} {faults : List Fault}
    (failed : ((manager.retrieveCertificate session request).on arrivals).1 =
      .error (.failed (.decoding note faults))) : ¬ note.OfGuard := by
  have ending := (closes_retrieveCertificate manager session request).closed
    (rfl : ({ arrivals } : Dialogue).sent = []) ⟨rfl, nofun⟩
  -- Such a failure is found in the last response, or in the keys that are to be compared.
  obtain ⟨_, _, _, grounds⟩ := ending.tells fun _ _ given => given.decoding_or_lapsed
  rcases grounds note faults failed with unread | given
  · exact unread.not_ofGuard
  · exact given.not_ofGuard

/-- In a session with a company, a retrieval refuses what it is asked only if that names nothing. -/
theorem namesNothing_of_refused {account : Session} {dialogue : Dialogue}
    (company : account.account.company.isSome)
    (refused : ((manager.retrieveCertificate (some account) request).hold dialogue).1 =
      .error (.failed (.validation note))) : request.NamesNothing := by
  obtain ⟨run, comesTo, retrieved⟩ :=
    hold_retrieveCertificate_comesTo manager request company dialogue
  rw [retrieved] at refused
  -- Whatever there is to retrieve, the failures of retrieving it are not about what is asked.
  cases comesTo with
  | certified =>
    have calling := (failsOnly_fetchCertificate account _).of_failed refused
    exact absurd rfl (calling.unasked note)
  | submitted =>
    have retrieving := (failsOnly_retrieveSubmitted account request manager _).of_failed refused
    exact absurd rfl (retrieving.unasked note)
  | printed =>
    have unasked := (failsOnly_retrieveByThumbprint manager account request _).of_failed refused
    exact absurd rfl (unasked note)
  | unnamed uncertified unsubmitted unprinted => exact ⟨unsubmitted, uncertified, unprinted⟩

/-- A retrieval refuses what it is asked exactly if that names nothing, in a session with a company. -/
theorem retrieveCertificate_refuses_iff (dialogue : Dialogue) :
    ((manager.retrieveCertificate session request).hold dialogue).1 =
        .error (.failed (.validation note)) ↔
      Failure.validation note = .nothingToRetrieve ∧
        (∃ account, session = some account ∧ account.account.company.isSome) ∧
          request.NamesNothing := by
  have unnamed {account : Session} (company : account.account.company.isSome)
      (nothing : request.NamesNothing) :
      (manager.retrieveCertificate (some account) request).hold dialogue =
        (.error (.failed .nothingToRetrieve), dialogue) :=
    hold_retrieveCertificate_unnamed company nothing.uncertified nothing.unsubmitted
      nothing.unprinted dialogue
  constructor
  · intro refused
    by_cases inside : ∃ account, session = some account ∧ account.account.company.isSome
    · obtain ⟨account, rfl, company⟩ := inside
      have nothing := namesNothing_of_refused company refused
      rw [unnamed company nothing] at refused
      exact ⟨(Stop.failed.inj (Except.error.inj refused)).symm, ⟨account, rfl, company⟩, nothing⟩
    · -- Without a company, it is the session that is wrong, whatever the request names.
      have outside : ∀ account, session = some account → account.account.company = none := by
        intro account same
        by_contra company
        exact inside ⟨account, same, Option.isSome_iff_ne_none.mpr company⟩
      rw [retrieveCertificate, hold_unauthenticated outside] at refused
      cases refused
  · intro asked
    obtain ⟨same, ⟨account, rfl, company⟩, nothing⟩ := asked
    rw [unnamed company nothing, same]

/--
A retrieval needs no guard against parts of its own that give it nothing.

Without its guards it is the same run, and with them it never fails by their messages.
What it refuses is a request that names nothing, in a session with a company, and nothing else.
-/
theorem retrieveCertificate_needs_no_guard (manager : Manager) (session : Option Session)
    (request : CertificateRequest) (arrivals : List Arrival) :
    let held := (manager.retrieveCertificate session request).on arrivals
    held = (manager.retrieveUnguarded session request).on arrivals ∧
    (∀ note faults, held.1 = .error (.failed (.decoding note faults)) → ¬ note.OfGuard) ∧
    ∀ note, held.1 = .error (.failed (.validation note)) ↔
      Failure.validation note = .nothingToRetrieve ∧
        (∃ account, session = some account ∧ account.account.company.isSome) ∧
          request.NamesNothing := by
  intro held
  refine ⟨?_, fun note faults failed => ?_, fun note => ?_⟩
  · exact (hold_retrieveUnguarded manager session request { arrivals }).symm
  · exact not_ofGuard_of_undecoded failed
  · exact retrieveCertificate_refuses_iff { arrivals }

end Manager

end Issuance
