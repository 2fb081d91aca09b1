import Mathlib.Data.List.Induction
import Issuance.Proofs.Client
import Issuance.Resolution

/-! What fingerprints and renewals resolve to: the one request the certificates found tell of. -/

namespace Issuance

/-- A text that counts is there and not empty. -/
theorem filled?_eq_some {text : Option String} {found : String} :
    filled? text = some found ↔ text = some found ∧ found ≠ "" := by
  rw [filled?, Option.filter_eq_some_iff, Bool.not_eq_true', String.isEmpty_eq_false_iff]

namespace FingerprintMatch

/-- One more item is one more distinct item, unless it is known. -/
theorem distinct_append_singleton (items : List String) (item : String) :
    distinct (items ++ [item]) =
      if item ∈ distinct items then distinct items else distinct items ++ [item] := by
  -- The fold over all items ends with a step for the last one.
  simp only [distinct, List.foldl_append, List.foldl_cons, List.foldl_nil, List.contains_iff_mem]

theorem mem_distinct {items : List String} {item : String} :
    item ∈ distinct items ↔ item ∈ items := by
  induction items using List.reverseRecOn with
  | nil => rfl
  | append_singleton items last ih =>
    rw [distinct_append_singleton, List.mem_append, List.mem_singleton, ← ih]
    by_cases known : last ∈ distinct items
    · -- A known item changes nothing, and being known it stays a member.
      rw [if_pos known]
      constructor
      · exact Or.inl
      · rintro (member | rfl)
        · exact member
        · exact known
    · rw [if_neg known, List.mem_append, List.mem_singleton]

theorem distinct_nodup (items : List String) : (distinct items).Nodup := by
  induction items using List.reverseRecOn with
  | nil => exact List.nodup_nil
  | append_singleton items last ih =>
    rw [distinct_append_singleton]
    split
    · exact ih
    · -- A new item goes to the end, where it repeats nothing.
      next fresh =>
      rw [List.nodup_append]
      refine ⟨ih, by simp, ?_⟩
      rintro item before _ same rfl
      exact fresh (List.mem_singleton.mp same ▸ before)

/-- One distinct item is left exactly of a list that holds nothing else. -/
theorem distinct_eq_singleton {items : List String} {only : String} :
    distinct items = [only] ↔ only ∈ items ∧ ∀ item ∈ items, item = only := by
  constructor
  · intro single
    -- Membership is not changed by taking repetitions out.
    have member : ∀ item, item ∈ items ↔ item = only := fun item => by
      rw [← mem_distinct, single, List.mem_singleton]
    exact ⟨(member only).mpr rfl, fun item => (member item).mp⟩
  · rintro ⟨present, alone⟩
    -- Without repetition, a list of nothing but one item has it once.
    have same : ∀ item ∈ distinct items, item = only :=
      fun item member => alone item (mem_distinct.mp member)
    have copies : distinct items = List.replicate (distinct items).length only :=
      List.eq_replicate_of_mem same
    have once := distinct_nodup items
    rw [copies, List.nodup_replicate] at once
    have nonempty := List.length_pos_of_mem (mem_distinct.mpr present)
    rw [copies, show (distinct items).length = 1 by omega]
    rfl

/-- Of the certificates found, some tell of one request, and none tells of another. -/
def SoleRequest (summaries : List CertificateSummary) (requestId : String) : Prop :=
  requestId ≠ "" ∧ (∃ summary ∈ summaries, summary.requestId = requestId) ∧
    ∀ summary ∈ summaries, summary.requestId = "" ∨ summary.requestId = requestId

theorem mem_requestIds_told {summaries : List CertificateSummary} {requestId : String} :
    requestId ∈ (summaries.map (·.requestId)).filter (!·.isEmpty) ↔
      requestId ≠ "" ∧ ∃ summary ∈ summaries, summary.requestId = requestId := by
  simp [List.mem_filter, and_comm]

theorem requestIds_eq_singleton {summaries : List CertificateSummary} {requestId : String} :
    requestIds summaries = [requestId] ↔ SoleRequest summaries requestId := by
  rw [requestIds, distinct_eq_singleton, mem_requestIds_told, SoleRequest, and_assoc]
  refine and_congr_right fun _ => and_congr_right fun _ => ?_
  -- An empty id is no id, so that it may stand beside the one that counts.
  constructor
  · intro alone summary member
    -- A certificate that tells of a request tells of the only one.
    by_cases empty : summary.requestId = ""
    · exact .inl empty
    · exact .inr (alone _ (mem_requestIds_told.mpr ⟨empty, summary, member, rfl⟩))
  · intro alone item told
    obtain ⟨filled, summary, member, rfl⟩ := mem_requestIds_told.mp told
    exact (alone summary member).resolve_left filled

/-- What the certificates found come to, by the requests they tell of, each of which is told once. -/
inductive Judged (fingerprint : String) (summaries : List CertificateSummary) :
    Outcome FingerprintMatch → Prop
  /-- There are no certificates. -/
  | nothing (found : summaries = []) :
      Judged fingerprint summaries (.error (.noCertificate fingerprint))
  /-- There are certificates, but they tell neither of a request nor of their ids. -/
  | untold (found : summaries ≠ []) (requests : requestIds summaries = [])
      (certificates : certificateId? summaries = none) :
      Judged fingerprint summaries (.error (.noRequest fingerprint fingerprint))
  /-- There is no request behind the certificates, and one of them tells of its id. -/
  | certificate {certificateId : String} (requests : requestIds summaries = [])
      (certificates : certificateId? summaries = some certificateId) :
      Judged fingerprint summaries (.ok ⟨"", some certificateId⟩)
  /-- There is one request. -/
  | request {requestId : String} (requests : requestIds summaries = [requestId]) :
      Judged fingerprint summaries (.ok ⟨requestId, certificateId? summaries⟩)
  /-- There are several requests. -/
  | several {first second : String} {others : List String}
      (requests : requestIds summaries = first :: second :: others) :
      Judged fingerprint summaries (.error (.ambiguous fingerprint (first :: second :: others)))

/-- The judgement of certificates has these outcomes and no others. -/
theorem judged_ofSummaries (fingerprint : String) (summaries : List CertificateSummary) :
    Judged fingerprint summaries (ofSummaries fingerprint summaries) := by
  unfold ofSummaries
  by_cases found : summaries = []
  · rw [if_pos (List.isEmpty_iff.mpr found)]
    exact .nothing found
  · rw [if_neg (mt List.isEmpty_iff.mp found)]
    -- The requests are looked at first, and the certificates only where there is no request.
    rcases requests : requestIds summaries with _ | ⟨first, _ | ⟨second, others⟩⟩
    · cases certificates : certificateId? summaries with
      | none => exact .untold found requests certificates
      | some certificateId => exact .certificate requests certificates
    · exact .request requests
    · exact .several requests

/-- Resolution gives a request id that is not empty exactly if it is the only one. -/
theorem ofSummaries_requestId (fingerprint : String) {requestId : String}
    {summaries : List CertificateSummary} :
    (requestId ≠ "" ∧ ∃ found, ofSummaries fingerprint summaries = .ok found ∧
      found.requestId = requestId) ↔ SoleRequest summaries requestId := by
  rw [← requestIds_eq_singleton]
  have judged := judged_ofSummaries fingerprint summaries
  constructor
  · rintro ⟨filled, found, resolved, rfl⟩
    rw [resolved] at judged
    cases judged with
    -- Without a request id there is a match, but its id is empty.
    | certificate requests certificates => exact absurd rfl filled
    | request requests => exact requests
  · intro single
    refine ⟨(requestIds_eq_singleton.mp single).1, ?_⟩
    generalize ofSummaries fingerprint summaries = outcome at judged
    -- All outcomes but one are about other numbers of requests.
    cases judged with
    | nothing found => simp [found, requestIds, distinct] at single
    | untold found requests certificates => simp [requests] at single
    | certificate requests certificates => simp [requests] at single
    | request requests =>
      rw [requests, List.singleton_inj] at single
      exact ⟨_, rfl, single⟩
    | several requests => simp [requests] at single

/-- A match that tells of no request tells of a certificate. -/
theorem certificateId_of_ofSummaries {fingerprint : String} {summaries : List CertificateSummary}
    {found : FingerprintMatch} (resolved : ofSummaries fingerprint summaries = .ok found)
    (unnamed : filled? (some found.requestId) = none) : found.certificateId ≠ none := by
  have judged := judged_ofSummaries fingerprint summaries
  rw [resolved] at judged
  cases judged with
  | certificate requests certificates => exact nofun
  | request requests =>
    -- The one request behind the certificates has an id that is not empty.
    have filled := (requestIds_eq_singleton.mp requests).1
    rw [filled?_eq_some.mpr ⟨rfl, filled⟩] at unnamed
    cases unnamed

end FingerprintMatch

/-- The call that searches certificates with a thumbprint, in whatever spelling. -/
def Call.thumbprintSearch (session : Session) (thumbprint : String) : Call :=
  .search session (Resolution.fingerprintSearch (Fingerprint.normalize thumbprint))

/--
The calls that find the target of a renewal, and the request id they lead to.

Each of the calls takes one of the replies.
-/
inductive TargetFound (session : Session) (renewal : RenewalRequest) :
    List Call → List Arrival → String → Prop
  /-- A renewal that names the request needs no call. -/
  | named {requestId : String} (unprinted : filled? renewal.thumbprint = none)
      (named : filled? renewal.certificateDn = some requestId) :
      TargetFound session renewal [] [] requestId
  /-- A thumbprint is searched for, and the certificates found have to tell of one request. -/
  | searched {thumbprint requestId : String} {arrival : Arrival} {result : SearchResult}
      (printed : filled? renewal.thumbprint = some thumbprint)
      (unnamed : filled? renewal.certificateDn = none)
      (told : arrival.reply.Tells SearchResult.check 200 result)
      (sole : FingerprintMatch.SoleRequest result.certificates requestId) :
      TargetFound session renewal [.thumbprintSearch session thumbprint] [arrival] requestId

/-- The first reply is to a search, and the certificates that it tells of are of one request. -/
def LeadsToRequest (arrivals : List Arrival) (requestId : String) : Prop :=
  ∃ arrival rest result, arrivals = arrival :: rest ∧
    arrival.reply.Tells SearchResult.check 200 result ∧
      FingerprintMatch.SoleRequest result.certificates requestId

/-- Searching for a thumbprint submits nothing. -/
theorem Call.not_submits_thumbprintSearch (session : Session) (thumbprint : String) :
    ¬ (thumbprintSearch session thumbprint).Submits :=
  not_submits_search session _

namespace Resolution

variable {session : Session}

/-- Telling the log of a match adds to the log alone. -/
theorem hold_logMatch (fingerprint : String) (outcome : Outcome FingerprintMatch)
    (dialogue : Dialogue) :
    ∃ log, (logMatch fingerprint outcome).hold dialogue = (.ok (), { dialogue with log }) := by
  unfold logMatch
  -- Some outcomes are worth a line in the log, and all others leave it as it is.
  split
  · exact ⟨_, Run.hold_log ..⟩
  · exact ⟨_, Run.hold_log ..⟩
  · exact ⟨dialogue.log, rfl⟩

/-- What a resolution learns from its search: the judgement on the certificates that it finds. -/
def judgedSearch (thumbprint : String) (dialogue : Dialogue) : Except Stop FingerprintMatch :=
  (dialogue.learns fun response => response.decode SearchResult.check "certificate search").bind
    fun result => (FingerprintMatch.ofSummaries (Fingerprint.normalize thumbprint)
      result.certificates).mapError .failed

/-- Resolving a fingerprint is one call, and what is learned from it. -/
theorem hold_resolveFingerprint_called (session : Session) (thumbprint : String)
    (dialogue : Dialogue) :
    ∃ log, (resolveFingerprint session thumbprint).hold dialogue =
      (judgedSearch thumbprint dialogue,
        { dialogue.called (.thumbprintSearch session thumbprint) with log }) := by
  have searched :
      (searchByFingerprint session (Fingerprint.normalize thumbprint)).hold dialogue = _ :=
    Client.hold_search session dialogue (shallow_fingerprintSearch _)
  unfold resolveFingerprint judgedSearch
  cases learned : dialogue.learns fun response =>
      response.decode SearchResult.check "certificate search" with
  | error stop =>
    rw [learned] at searched
    exact ⟨_, Run.hold_bind_error searched⟩
  | ok result =>
    rw [learned] at searched
    -- The match is logged before it is handed on, which no outcome depends on.
    obtain ⟨log, logged⟩ := hold_logMatch (Fingerprint.normalize thumbprint)
      (FingerprintMatch.ofSummaries (Fingerprint.normalize thumbprint) result.certificates)
      (dialogue.called (.thumbprintSearch session thumbprint))
    refine ⟨log, (Run.hold_bind_ok searched).trans ?_⟩
    exact (Run.hold_bind_ok logged).trans (Run.hold_ofOutcome _ _)

/-- Resolving a fingerprint is one search, and a judgement on the certificates it finds. -/
theorem hold_resolveFingerprint (session : Session) (thumbprint : String) (dialogue : Dialogue) :
    ∃ later, Dialogue.ReachedBy [.thumbprintSearch session thumbprint] dialogue later ∧
      (resolveFingerprint session thumbprint).hold dialogue =
        ((dialogue.learns fun response =>
            response.decode SearchResult.check "certificate search").bind fun result =>
              (FingerprintMatch.ofSummaries (Fingerprint.normalize thumbprint)
                result.certificates).mapError .failed, later) := by
  obtain ⟨log, held⟩ := hold_resolveFingerprint_called session thumbprint dialogue
  exact ⟨_, .logged (.call dialogue _) log, held⟩

/-- A search leads to a request exactly if its reply tells of certificates of that one alone. -/
theorem judgedSearch_requestId (thumbprint : String) (dialogue : Dialogue) {requestId : String} :
    (requestId ≠ "" ∧ ∃ found, judgedSearch thumbprint dialogue = .ok found ∧
      found.requestId = requestId) ↔ LeadsToRequest dialogue.arrivals requestId := by
  unfold judgedSearch LeadsToRequest
  cases learned : dialogue.learns fun response =>
      response.decode SearchResult.check "certificate search" with
  | error stop =>
    -- A search that fails leads nowhere, and no reply tells of anything then.
    constructor
    · intro matched
      obtain ⟨_, _, matched, _⟩ := matched
      cases matched
    · intro told
      obtain ⟨arrival, rest, result, next, told, _⟩ := told
      rw [(Dialogue.learns_decode_eq_ok _).mpr ⟨arrival, rest, next, told⟩] at learned
      cases learned
  | ok result =>
    simp only [Except.bind, Outcome.mapError_eq_ok]
    rw [FingerprintMatch.ofSummaries_requestId]
    constructor
    · intro sole
      obtain ⟨arrival, rest, next, told⟩ := (Dialogue.learns_decode_eq_ok _).mp learned
      exact ⟨arrival, rest, result, next, told, sole⟩
    · intro told
      obtain ⟨arrival, rest, other, next, told, sole⟩ := told
      -- The reply tells one result only.
      rw [(Dialogue.learns_decode_eq_ok _).mpr ⟨arrival, rest, next, told⟩] at learned
      cases learned
      exact sole

variable {renewal : RenewalRequest} {dialogue later : Dialogue} {requestId thumbprint : String}

/-- A renewal that names its request leads there at once. -/
theorem hold_renewalTarget_named (unprinted : filled? renewal.thumbprint = none)
    (named : filled? renewal.certificateDn = some requestId) :
    (renewalTarget (some session) renewal).hold dialogue = (.ok requestId, dialogue) := by
  -- The choice of the target looks at the two names alone.
  have target : renewal.target = .ok (.request requestId) := by
    rw [RenewalRequest.target, unprinted, named]
  unfold renewalTarget
  rw [target]
  rfl

/-- A match counts for a renewal only with a request id that is not empty. -/
private theorem hold_matchedRequest {run : Run FingerprintMatch}
    {found : Except Stop FingerprintMatch} (failure : Failure)
    (resolved : run.hold dialogue = (found, later)) :
    ∃ outcome, (run >>= fun found =>
        if found.requestId.isEmpty then Run.fail failure
        else return found.requestId).hold dialogue = (outcome, later) ∧
      ∀ requestId, outcome = .ok requestId ↔
        requestId ≠ "" ∧ ∃ told, found = .ok told ∧ told.requestId = requestId := by
  cases found with
  | error stop => exact ⟨.error stop, Run.hold_bind_error resolved, by simp⟩
  | ok told =>
    rw [Run.hold_bind_ok resolved]
    -- A match that tells of no request is as good as none.
    by_cases empty : told.requestId = ""
    · refine ⟨.error (.failed failure), by simp [empty], ?_⟩
      rintro requestId
      simp only [reduceCtorEq, Except.ok.injEq, exists_eq_left', false_iff, not_and]
      rintro filled rfl
      exact filled empty
    · refine ⟨.ok told.requestId, by simp [empty], ?_⟩
      rintro requestId
      simp only [Except.ok.injEq, exists_eq_left']
      constructor
      · rintro rfl
        exact ⟨empty, rfl⟩
      · exact And.right

/-- A thumbprint leads to the one request that the certificates found for it tell of. -/
theorem hold_renewalTarget_searched (session : Session) (dialogue : Dialogue)
    (printed : filled? renewal.thumbprint = some thumbprint)
    (unnamed : filled? renewal.certificateDn = none) :
    ∃ outcome later, Dialogue.ReachedBy [.thumbprintSearch session thumbprint] dialogue later ∧
      (renewalTarget (some session) renewal).hold dialogue = (outcome, later) ∧
      ∀ requestId, outcome = .ok requestId ↔ ∃ result, (dialogue.learns fun response =>
          response.decode SearchResult.check "certificate search") = .ok result ∧
        FingerprintMatch.SoleRequest result.certificates requestId := by
  have target : renewal.target = .ok (.fingerprint thumbprint) := by
    rw [RenewalRequest.target, printed, unnamed]
  obtain ⟨later, reached, resolved⟩ := hold_resolveFingerprint session thumbprint dialogue
  obtain ⟨outcome, held, judged⟩ := hold_matchedRequest
    (.noRequest (Fingerprint.normalize thumbprint) thumbprint) resolved
  refine ⟨outcome, later, reached, ?_, fun requestId => ?_⟩
  -- The branch for a fingerprint is the judged match, word for word.
  · unfold renewalTarget
    rw [target]
    exact held
  · rw [judged]
    -- The certificates found are judged only if the search has told of any.
    cases dialogue.learns fun response =>
        response.decode SearchResult.check "certificate search" with
    | error stop => simp [Except.bind]
    | ok result =>
      simp only [Except.bind, Except.ok.injEq, exists_eq_left']
      rw [← FingerprintMatch.ofSummaries_requestId (Fingerprint.normalize thumbprint)]
      cases FingerprintMatch.ofSummaries (Fingerprint.normalize thumbprint) result.certificates <;>
        simp

/-- With replies that find the target, a renewal makes just the calls they answer. -/
theorem hold_renewalTarget_of_found {calls : List Call} {taken rest : List Arrival}
    (found : TargetFound session renewal calls taken requestId)
    (arrivals : dialogue.arrivals = taken ++ rest) :
    ∃ later, Dialogue.ReachedBy calls dialogue later ∧ later.arrivals = rest ∧
      (renewalTarget (some session) renewal).hold dialogue = (.ok requestId, later) := by
  cases found with
  | named unprinted named =>
    -- No reply is taken.
    exact ⟨dialogue, .refl dialogue, arrivals, hold_renewalTarget_named unprinted named⟩
  | searched printed unnamed told sole =>
    obtain ⟨outcome, later, reached, held, judged⟩ :=
      hold_renewalTarget_searched session dialogue printed unnamed
    -- The search learns what its reply tells, and the judgement on that is known.
    have learned := (Dialogue.learns_decode_eq_ok "certificate search").mpr
      ⟨_, rest, arrivals, told⟩
    rw [(judged requestId).mpr ⟨_, learned, sole⟩] at held
    exact ⟨later, reached, by rw [reached.arrivals, arrivals]; rfl, held⟩

/-- A renewal that names no target, or two, ends before anything is sent. -/
theorem hold_renewalTarget_refused (session : Session) (dialogue : Dialogue)
    (refused : (filled? renewal.thumbprint).isSome = (filled? renewal.certificateDn).isSome) :
    ∃ failure, (renewalTarget (some session) renewal).hold dialogue =
      (.error (.failed failure), dialogue) := by
  unfold renewalTarget RenewalRequest.target
  -- The two mixed cases are those that the hypothesis rules out.
  cases printed : filled? renewal.thumbprint <;> cases named : filled? renewal.certificateDn
  · exact ⟨.noTarget, rfl⟩
  · simp [printed, named] at refused
  · simp [printed, named] at refused
  · exact ⟨.twoTargets, rfl⟩

/--
Looking for the target submits nothing, and gives a target only if replies find it.

The replies that find it are those that the calls have taken.
-/
theorem hold_renewalTarget (session : Session) (renewal : RenewalRequest) (dialogue : Dialogue) :
    ∃ calls outcome later, (∀ call ∈ calls, ¬ call.Submits) ∧
      Dialogue.ReachedBy calls dialogue later ∧
      (renewalTarget (some session) renewal).hold dialogue = (outcome, later) ∧
      ∀ requestId, outcome = .ok requestId → ∃ taken,
        dialogue.arrivals = taken ++ later.arrivals ∧
          TargetFound session renewal calls taken requestId := by
  cases printed : filled? renewal.thumbprint <;> cases named : filled? renewal.certificateDn
  case some.none thumbprint =>
    -- A thumbprint alone is searched for.
    obtain ⟨outcome, later, reached, held, judged⟩ :=
      hold_renewalTarget_searched session dialogue printed named
    refine ⟨_, outcome, later, ?_, reached, held, fun requestId succeeded => ?_⟩
    · simpa using Call.not_submits_thumbprintSearch session thumbprint
    -- The reply that the search has taken is the one that finds the target.
    · obtain ⟨result, learned, sole⟩ := (judged requestId).mp succeeded
      obtain ⟨arrival, rest, arrivals, told⟩ := (Dialogue.learns_decode_eq_ok _).mp learned
      exact ⟨[arrival], by rw [reached.arrivals, arrivals]; rfl, .searched printed named told sole⟩
  case none.some requestId =>
    -- A named request is the target itself, without a call.
    refine ⟨[], .ok requestId, dialogue, by simp, .refl dialogue,
      hold_renewalTarget_named printed named, ?_⟩
    rintro _ ⟨⟩
    exact ⟨[], rfl, .named printed named⟩
  -- In the other two cases the renewal names none or two.
  all_goals
    have refused :
        (filled? renewal.thumbprint).isSome = (filled? renewal.certificateDn).isSome := by
      simp [printed, named]
    obtain ⟨failure, held⟩ := hold_renewalTarget_refused session dialogue refused
    exact ⟨[], _, dialogue, by simp, .refl dialogue, held, by simp⟩

/-- A lineage is verified by one read, exactly if the record told names the request. -/
theorem hold_verifyLineage (session : Session) (certificateId requestId : String)
    (fingerprint : Option String) (dialogue : Dialogue) :
    ∃ outcome, (verifyLineage session certificateId requestId fingerprint).hold dialogue =
        (outcome, dialogue.called (.certificate session certificateId)) ∧
      ∀ record, outcome = .ok record ↔ (dialogue.learns fun response =>
          response.decode ManagedCertificate.check "certificate lookup") = .ok record ∧
        record.requestId = requestId := by
  have read := Client.hold_certificate session dialogue certificateId
  unfold verifyLineage
  cases learned : dialogue.learns fun response =>
      response.decode ManagedCertificate.check "certificate lookup" with
  | error stop =>
    rw [learned] at read
    exact ⟨.error stop, Run.hold_bind_error read, by simp⟩
  | ok told =>
    rw [learned] at read
    rw [Run.hold_bind_ok read]
    -- The record decides: it names the request that is to be renewed, or a later one.
    by_cases same : told.requestId = requestId
    · refine ⟨.ok told, by simp [same], fun record => ?_⟩
      simp only [Except.ok.injEq]
      constructor
      · rintro rfl
        exact ⟨rfl, same⟩
      · exact And.left
    · refine ⟨.error (.failed _), by simp only [if_neg same]; rfl, fun record => ?_⟩
      simp only [reduceCtorEq, Except.ok.injEq, false_iff]
      rintro ⟨rfl, other⟩
      exact same other

end Resolution

end Issuance
