import Issuance.Proofs.Identity
import Issuance.Proofs.Thumbprint

/-! Which of the records found the certificate of a match comes from: the last that has an id. -/

namespace Issuance

namespace FingerprintMatch

/-- The last of the records that have an id has this one. -/
def LastTold (summaries : List CertificateSummary) (certificateId : String) : Prop :=
  certificateId ≠ "" ∧ ∃ before record after, summaries = before ++ record :: after ∧
    record.id = certificateId ∧ ∀ later ∈ after, later.id = ""

/-- The last certificate told is that of a record. -/
theorem LastTold.exists_mem {summaries : List CertificateSummary} {certificateId : String}
    (last : LastTold summaries certificateId) :
    ∃ summary ∈ summaries, summary.id = certificateId := by
  obtain ⟨_, before, record, after, rfl, same, _⟩ := last
  exact ⟨record, by simp, same⟩

section Records

variable {summaries : List CertificateSummary} {fingerprint requestId certificateId : String}

/-- One more record with an id tells of its certificate instead of any other. -/
theorem certificateId?_append_singleton (summaries : List CertificateSummary)
    (last : CertificateSummary) :
    certificateId? (summaries ++ [last]) =
      if last.id = "" then certificateId? summaries else some last.id := by
  unfold certificateId?
  by_cases empty : last.id = ""
  · simp [empty]
  · simp [empty]

/-- One more record with an id is the last one, and one without leaves the last as it is. -/
theorem lastTold_append_singleton (last : CertificateSummary) :
    LastTold (summaries ++ [last]) certificateId ↔
      (last.id = certificateId ∧ certificateId ≠ "") ∨
        (last.id = "" ∧ LastTold summaries certificateId) := by
  constructor
  · rintro ⟨filled, before, record, after, whole, same, silent⟩
    -- Either nothing stands behind the record that tells, or the new record is the last there.
    rcases List.eq_nil_or_concat after with rfl | ⟨shorter, final, rfl⟩
    · obtain ⟨_, only⟩ := List.append_inj' whole rfl
      exact .inl ⟨List.singleton_inj.mp only ▸ same, filled⟩
    · have split : summaries ++ [last] = (before ++ record :: shorter) ++ [final] := by
        rw [whole]
        simp
      obtain ⟨rfl, only⟩ := List.append_inj' split rfl
      rw [← List.singleton_inj.mp only] at silent
      exact .inr ⟨silent last (by simp), filled, before, record, shorter, rfl, same,
        fun later member => silent later (by simp [member])⟩
  · rintro (⟨rfl, filled⟩ | ⟨empty, filled, before, record, after, rfl, same, silent⟩)
    · exact ⟨filled, summaries, last, [], rfl, rfl, by simp⟩
    · refine ⟨filled, before, record, after ++ [last], by simp, same, fun later member => ?_⟩
      rcases List.mem_append.mp member with member | member
      · exact silent later member
      · rw [List.mem_singleton.mp member, empty]

/-- The certificate told is that of the last record with an id. -/
theorem certificateId?_eq_some :
    certificateId? summaries = some certificateId ↔ LastTold summaries certificateId := by
  induction summaries using List.reverseRecOn with
  | nil => simp [certificateId?, LastTold]
  | append_singleton summaries last ih =>
    rw [certificateId?_append_singleton, lastTold_append_singleton]
    by_cases empty : last.id = ""
    · -- An empty id is not the id of any certificate.
      have untold : ¬ (last.id = certificateId ∧ certificateId ≠ "") :=
        fun told => told.2 (told.1.symm.trans empty)
      rw [if_pos empty, ih, or_iff_right untold, and_iff_right empty]
    · rw [if_neg empty, Option.some.injEq, or_iff_left fun silent => empty silent.1]
      exact (and_iff_left_of_imp fun same => same ▸ empty).symm

/-- A match tells of the last certificate, and no record tells of a request other than its own. -/
theorem lastTold_of_ofSummaries
    (resolved : ofSummaries fingerprint summaries = .ok ⟨requestId, some certificateId⟩) :
    LastTold summaries certificateId ∧
      ∀ summary ∈ summaries, summary.requestId = "" ∨ summary.requestId = requestId := by
  have judged := judged_ofSummaries fingerprint summaries
  generalize ofSummaries fingerprint summaries = outcome at judged resolved
  cases judged with
  | nothing | untold | several => cases resolved
  | certificate requests certificates =>
    obtain ⟨rfl, same⟩ := FingerprintMatch.mk.inj (Except.ok.inj resolved)
    refine ⟨certificateId?_eq_some.mp (certificates.trans same), fun summary member => .inl ?_⟩
    -- A record that told of a request would leave the list of requests not empty.
    by_contra filled
    exact requestIds_eq_nil.mp requests summary.requestId ⟨filled, summary, member, rfl⟩
  | request requests =>
    obtain ⟨rfl, same⟩ := FingerprintMatch.mk.inj (Except.ok.inj resolved)
    exact ⟨certificateId?_eq_some.mp same, (requestIds_eq_singleton.mp requests).2.2⟩

/-- Records that tell of one request at most resolve to the last certificate they tell of. -/
theorem ofSummaries_of_lastTold (fingerprint : String)
    (agree : ∀ one other, Told summaries one → Told summaries other → one = other)
    (last : LastTold summaries certificateId) :
    ∃ requestId, ofSummaries fingerprint summaries = .ok ⟨requestId, some certificateId⟩ := by
  have certificates := certificateId?_eq_some.mpr last
  have judged := judged_ofSummaries fingerprint summaries
  generalize ofSummaries fingerprint summaries = outcome at judged
  -- Only a match is left as the outcome, with the requests in agreement and a certificate told.
  cases judged with
  | nothing found => simp [found, certificateId?] at certificates
  | untold found requests none => simp [none] at certificates
  | certificate requests some =>
    rw [some, Option.some.injEq] at certificates
    exact ⟨"", by rw [certificates]⟩
  | request requests => exact ⟨_, by rw [certificates]⟩
  | several requests =>
    obtain ⟨one, other, differ⟩ := told_of_requestIds_eq requests
    exact absurd (agree _ _ one other) differ

/-- Without a request, a match is of the last certificate alone. -/
theorem ofSummaries_of_untold_lastTold (fingerprint : String)
    (untold : ∀ requestId, ¬ Told summaries requestId) (last : LastTold summaries certificateId) :
    ofSummaries fingerprint summaries = .ok ⟨"", some certificateId⟩ := by
  have certificates := certificateId?_eq_some.mpr last
  have found : summaries ≠ [] := fun none => by simp [none, certificateId?] at certificates
  simp [ofSummaries, found, requestIds_eq_nil.mpr untold, certificates]

/-- A record carries a match's two ids exactly if one with its certificate has any request. -/
theorem exists_carrier_iff
    (alone : ∀ summary ∈ summaries, summary.requestId = "" ∨ summary.requestId = requestId)
    (filled : requestId ≠ "") :
    (∃ summary ∈ summaries, summary.requestId = requestId ∧ summary.id = certificateId) ↔
      ∃ summary ∈ summaries, summary.id = certificateId ∧ summary.requestId ≠ "" := by
  constructor
  · rintro ⟨summary, member, rfl, same⟩
    exact ⟨summary, member, same, filled⟩
  · rintro ⟨summary, member, same, told⟩
    exact ⟨summary, member, (alone summary member).resolve_left told, same⟩

/-- All certificates told are the last one exactly if no two of them differ. -/
theorem all_lastTold_iff (last : LastTold summaries certificateId) :
    (∀ summary ∈ summaries, summary.id ≠ "" → summary.id = certificateId) ↔
      ∀ one ∈ summaries, ∀ other ∈ summaries, one.id ≠ "" → other.id ≠ "" → one.id = other.id := by
  constructor
  · intro same one member other memberOther told toldOther
    rw [same one member told, same other memberOther toldOther]
  · -- The last certificate is itself told by one of the records.
    obtain ⟨filled, before, record, after, rfl, rfl, _⟩ := last
    exact fun agree summary member told => agree summary member record (by simp) told filled

end Records

end FingerprintMatch

namespace Resolution

open FingerprintMatch

/--
A match tells of the certificate of the last record that has an id.

No record is of another request, but the certificate may come from a record without any request.
Without a request, certificates that differ resolve to the last of them, and that one is fetched.
-/
theorem resolveFingerprint_takes_last_certificate (session : Session) (thumbprint : String)
    {dialogue : Dialogue} {arrival : Arrival} {rest : List Arrival} {result : SearchResult}
    (next : dialogue.arrivals = arrival :: rest)
    (told : arrival.reply.Tells SearchResult.check 200 result) :
    let records := result.certificates
    let outcome := ((resolveFingerprint session thumbprint).hold dialogue).1
    (∀ requestId certificateId, outcome = .ok ⟨requestId, some certificateId⟩ →
      LastTold records certificateId ∧
      (∀ record ∈ records, record.requestId = "" ∨ record.requestId = requestId) ∧
      (requestId ≠ "" →
        ((∃ record ∈ records, record.requestId = requestId ∧ record.id = certificateId) ↔
          ∃ record ∈ records, record.id = certificateId ∧ record.requestId ≠ "")) ∧
      ((∀ record ∈ records, record.id ≠ "" → record.id = certificateId) ↔
        ∀ one ∈ records, ∀ other ∈ records, one.id ≠ "" → other.id ≠ "" → one.id = other.id)) ∧
    (∀ certificateId, LastTold records certificateId →
      (∀ one other, Told records one → Told records other → one = other) →
        ∃ requestId, outcome = .ok ⟨requestId, some certificateId⟩) ∧
    ∀ (manager : Manager) (request : CertificateRequest) (certificateId : String),
      session.account.company.isSome → filled? request.certificateId = none →
      filled? request.pickupId = none → filled? request.thumbprint = some thumbprint →
      (∀ requestId, ¬ Told records requestId) → LastTold records certificateId →
        ((manager.retrieveCertificate (some session) request).hold dialogue).2.sent =
          dialogue.sent ++
            [.thumbprintSearch session thumbprint, .single session certificateId] := by
  intro records outcome
  have judgement : outcome =
      (ofSummaries (Fingerprint.normalize thumbprint) records).mapError .failed :=
    resolveFingerprint_of_told session thumbprint next told
  refine ⟨fun requestId certificateId matched => ?_, fun certificateId last agree => ?_,
    fun manager request certificateId company uncertified unsubmitted printed untold last => ?_⟩
  · rw [judgement, Outcome.mapError_eq_ok] at matched
    obtain ⟨last, alone⟩ := lastTold_of_ofSummaries matched
    exact ⟨last, alone, exists_carrier_iff alone, all_lastTold_iff last⟩
  · rw [judgement]
    simp only [Outcome.mapError_eq_ok]
    exact ofSummaries_of_lastTold _ agree last
  · -- The match has no request to wait for, so that its certificate is fetched at once.
    obtain ⟨later, reached, held⟩ := hold_resolveFingerprint session thumbprint dialogue
    have matched : outcome = .ok ⟨"", some certificateId⟩ := by
      rw [judgement, ofSummaries_of_untold_lastTold _ untold last]
      rfl
    have resolved : (resolveFingerprint session thumbprint).hold dialogue =
        (.ok ⟨"", some certificateId⟩, later) := Prod.ext matched (by rw [held])
    obtain ⟨log, fetched⟩ := Manager.hold_fetchCertificate session certificateId later
    rw [Manager.hold_retrieveCertificate_printed company uncertified unsubmitted printed,
      Manager.hold_retrieveByThumbprint_certificate resolved, fetched]
    simp only [Dialogue.called_sent, reached.sent, List.append_assoc, List.singleton_append]

/-- A reply to a search that tells of a request, and of a certificate that is not said to be its. -/
def joinedReply : Reply := .response ⟨200, "OK", Utf8.encode
  ("\x7b\"certificates\":[\x7b\"certificateRequestId\":\"req-1\"\x7d," ++
    "\x7b\"id\":\"cert-2\"\x7d]\x7d")⟩

/-- A reply to a search that tells of two certificates, and of no request. -/
def twoCertificatesReply : Reply := .response ⟨200, "OK", Utf8.encode
  "\x7b\"certificates\":[\x7b\"id\":\"cert-1\"\x7d,\x7b\"id\":\"cert-2\"\x7d]\x7d"⟩

/--
A request and a certificate that no record tells together make a match.

Of two certificates that no request is told for, the last is fetched as if it were the only one.
-/
theorem resolveFingerprint_joins_records :
    let session : Session := ⟨"key", { company := some ⟨"co-1", "Example"⟩ }⟩
    let manager : Manager := ⟨none, .ofInt 2, .ofInt 1, "host", .system⟩
    let joined : Dialogue := { arrivals := [⟨.zero, joinedReply⟩] }
    let two : Dialogue := { arrivals := [⟨.zero, twoCertificatesReply⟩] }
    ((resolveFingerprint session "ab:cd").hold joined).1 = .ok ⟨"req-1", some "cert-2"⟩ ∧
      ((manager.retrieveCertificate (some session) { thumbprint := some "ab:cd" }).hold
        two).2.sent = [.thumbprintSearch session "ab:cd", .single session "cert-2"] := by
  intro session manager joined two
  have toldJoined : joinedReply.Tells SearchResult.check 200
      ⟨0, [{ requestId := "req-1" }, { id := "cert-2" }]⟩ :=
    ⟨_, rfl, rfl, by decide +kernel⟩
  have toldTwo : twoCertificatesReply.Tells SearchResult.check 200
      ⟨0, [{ id := "cert-1" }, { id := "cert-2" }]⟩ :=
    ⟨_, rfl, rfl, by decide +kernel⟩
  constructor
  · obtain ⟨origin, resolves, _⟩ := resolveFingerprint_takes_last_certificate session "ab:cd"
      (rfl : joined.arrivals = _) toldJoined
    obtain ⟨requestId, outcome⟩ := resolves "cert-2"
      ⟨by decide, [{ requestId := "req-1" }], { id := "cert-2" }, [], rfl, rfl, by simp⟩
      (by simp only [Told]; grind)
    -- The first record tells of a request, and the match can be of no other.
    have own := (origin requestId "cert-2" outcome).2.1 _ (.head _)
    rw [outcome, ← own.resolve_left (by decide)]
  · obtain ⟨_, _, fetches⟩ := resolveFingerprint_takes_last_certificate session "ab:cd"
      (rfl : two.arrivals = _) toldTwo
    exact fetches manager { thumbprint := some "ab:cd" } "cert-2" rfl rfl rfl (by decide)
      (by simp [Told]) ⟨by decide, [{ id := "cert-1" }], { id := "cert-2" }, [], rfl, rfl, by simp⟩

end Resolution

end Issuance
