import Mathlib.Data.List.Basic
import Issuance.Proofs.Resolution

/-! A fingerprint leads to the one request that its records tell of, and never to one of several. -/

namespace Issuance

namespace FingerprintMatch

/-- Some of the records found tells of a request. -/
def Told (summaries : List CertificateSummary) (requestId : String) : Prop :=
  requestId ≠ "" ∧ ∃ summary ∈ summaries, summary.requestId = requestId

/-- A list of the requests that are told: each once, and in the order in which they first appear. -/
structure ListsTold (summaries : List CertificateSummary) (requestIds : List String) : Prop where
  once : requestIds.Nodup
  told : ∀ requestId, requestId ∈ requestIds ↔ Told summaries requestId
  ordered : requestIds.Pairwise fun earlier later =>
    (summaries.map (·.requestId)).idxOf earlier < (summaries.map (·.requestId)).idxOf later

/--
Outcomes of a resolution that agree in all but the order of what they tell.

A match may be told with another certificate, and the requests of an ambiguity in another order.
-/
inductive Alike : Except Stop FingerprintMatch → Except Stop FingerprintMatch → Prop
  | found (requestId : String) {certificateId other : Option String}
      (told : certificateId.isSome = other.isSome) :
      Alike (.ok ⟨requestId, certificateId⟩) (.ok ⟨requestId, other⟩)
  | ambiguous (fingerprint : String) {requestIds others : List String}
      (reordered : requestIds.Perm others) :
      Alike (.error (.failed (.ambiguous fingerprint requestIds)))
        (.error (.failed (.ambiguous fingerprint others)))
  | failed (failure : Failure) : Alike (.error (.failed failure)) (.error (.failed failure))

section Records

variable {summaries : List CertificateSummary}

theorem mem_requestIds {requestId : String} :
    requestId ∈ requestIds summaries ↔ Told summaries requestId := by
  rw [requestIds, mem_distinct, mem_requestIds_told, Told]

/-- One more record is one more request, unless it tells of none or of a known one. -/
theorem requestIds_append_singleton (summaries : List CertificateSummary)
    (last : CertificateSummary) :
    requestIds (summaries ++ [last]) =
      if last.requestId = "" ∨ last.requestId ∈ requestIds summaries then requestIds summaries
      else requestIds summaries ++ [last.requestId] := by
  unfold requestIds
  rw [List.map_append, List.filter_append]
  by_cases empty : last.requestId = ""
  · -- A record that tells of no request is passed over.
    simp [empty]
  · have told : [last.requestId].filter (!·.isEmpty) = [last.requestId] := by simp [empty]
    simp only [List.map_cons, List.map_nil, told, distinct_append_singleton, empty, false_or]

/-- The requests told are listed in the order in which they first appear. -/
theorem requestIds_pairwise (summaries : List CertificateSummary) :
    (requestIds summaries).Pairwise fun earlier later =>
      (summaries.map (·.requestId)).idxOf earlier < (summaries.map (·.requestId)).idxOf later := by
  induction summaries using List.reverseRecOn with
  | nil => exact .nil
  | append_singleton summaries last ih =>
    -- What is told by then keeps its place when one more record is looked at.
    have place : ∀ requestId ∈ requestIds summaries,
        ((summaries ++ [last]).map (·.requestId)).idxOf requestId =
          (summaries.map (·.requestId)).idxOf requestId := by
      intro requestId member
      obtain ⟨_, summary, found, rfl⟩ := mem_requestIds.mp member
      rw [List.map_append, List.idxOf_append_of_mem (List.mem_map_of_mem found)]
    have kept : (requestIds summaries).Pairwise fun earlier later =>
        ((summaries ++ [last]).map (·.requestId)).idxOf earlier <
          ((summaries ++ [last]).map (·.requestId)).idxOf later :=
      ih.imp_of_mem fun first second before => by rwa [place _ first, place _ second]
    rw [requestIds_append_singleton]
    split
    · exact kept
    · next fresh =>
      obtain ⟨filled, fresh⟩ := not_or.mp fresh
      -- A request that is new has its first place behind all records so far.
      have absent : last.requestId ∉ summaries.map (·.requestId) := by
        intro known
        obtain ⟨summary, found, same⟩ := List.mem_map.mp known
        exact fresh (mem_requestIds.mpr ⟨filled, summary, found, same⟩)
      have new : ((summaries ++ [last]).map (·.requestId)).idxOf last.requestId =
          (summaries.map (·.requestId)).length := by
        rw [List.map_append, List.idxOf_append_of_notMem absent]
        simp
      rw [List.pairwise_append]
      refine ⟨kept, List.pairwise_singleton _ _, ?_⟩
      intro earlier member later same
      obtain rfl := List.mem_singleton.mp same
      obtain ⟨_, summary, found, rfl⟩ := mem_requestIds.mp member
      rw [place _ member, new]
      exact List.idxOf_lt_length_of_mem (List.mem_map_of_mem found)

theorem listsTold_requestIds (summaries : List CertificateSummary) :
    ListsTold summaries (requestIds summaries) :=
  ⟨distinct_nodup _, fun _ => mem_requestIds, requestIds_pairwise summaries⟩

/-- The sole request is the one that is told, if no other is. -/
theorem soleRequest_iff {requestId : String} :
    SoleRequest summaries requestId ↔
      Told summaries requestId ∧ ∀ other, Told summaries other → other = requestId := by
  constructor
  · rintro ⟨filled, found, alone⟩
    refine ⟨⟨filled, found⟩, ?_⟩
    rintro _ ⟨other, summary, member, rfl⟩
    exact (alone summary member).resolve_left other
  · rintro ⟨⟨filled, found⟩, alone⟩
    refine ⟨filled, found, fun summary member => ?_⟩
    -- A record that tells of a request tells of the only one.
    by_cases empty : summary.requestId = ""
    · exact .inl empty
    · exact .inr (alone _ ⟨empty, summary, member, rfl⟩)

theorem requestIds_eq_nil :
    requestIds summaries = [] ↔ ∀ requestId, ¬ Told summaries requestId := by
  simp only [List.eq_nil_iff_forall_not_mem, mem_requestIds]

/-- No certificate is told exactly if no record has an id. -/
theorem certificateId?_eq_none :
    certificateId? summaries = none ↔ ∀ summary ∈ summaries, summary.id = "" := by
  simp [certificateId?]

/-- A certificate that is told has an id that is not empty. -/
theorem ne_empty_of_certificateId? {certificateId : String}
    (told : certificateId? summaries = some certificateId) : certificateId ≠ "" := by
  have member := List.mem_of_getLast? told
  simpa using (List.mem_filter.mp member).2

/-- The first two requests of several are told, and they are not the same. -/
theorem told_of_requestIds_eq {first second : String} {others : List String}
    (requests : requestIds summaries = first :: second :: others) :
    Told summaries first ∧ Told summaries second ∧ first ≠ second := by
  have once := (listsTold_requestIds summaries).once
  rw [requests, List.nodup_cons] at once
  exact ⟨mem_requestIds.mp (by simp [requests]), mem_requestIds.mp (by simp [requests]),
    fun same => once.1 (by simp [same])⟩

/-- Several requests are told of exactly if the judgement is that they are ambiguous. -/
theorem ofSummaries_eq_ambiguous (fingerprint : String) :
    (∃ named ids, ofSummaries fingerprint summaries = .error (.ambiguous named ids)) ↔
      ∃ one other, Told summaries one ∧ Told summaries other ∧ one ≠ other := by
  have judged := judged_ofSummaries fingerprint summaries
  constructor
  · rintro ⟨named, ids, ambiguous⟩
    rw [ambiguous] at judged
    cases judged with
    | several requests => exact ⟨_, _, told_of_requestIds_eq requests⟩
  · rintro ⟨one, other, told, toldOther, differ⟩
    rw [← mem_requestIds] at told toldOther
    generalize ofSummaries fingerprint summaries = outcome at judged
    -- With two requests told, there is a list of two at least.
    cases judged with
    | nothing found => simp [found, requestIds, distinct] at told
    | untold found requests certificates => simp [requests] at told
    | certificate requests certificates => simp [requests] at told
    | request requests =>
      rw [requests, List.mem_singleton] at told toldOther
      exact absurd (told.trans toldOther.symm) differ
    | several requests => exact ⟨_, _, rfl⟩

/-- An ambiguity names the fingerprint, and lists the requests that are told. -/
theorem listsTold_of_ambiguous {fingerprint named : String} {ids : List String}
    (ambiguous : ofSummaries fingerprint summaries = .error (.ambiguous named ids)) :
    named = fingerprint ∧ ListsTold summaries ids := by
  have judged := judged_ofSummaries fingerprint summaries
  rw [ambiguous] at judged
  cases judged with
  | several requests => exact ⟨rfl, requests ▸ listsTold_requestIds summaries⟩

/-- An empty request id stands for a certificate that no request is told for. -/
theorem ofSummaries_eq_certificate (fingerprint : String) :
    (∃ certificateId, certificateId ≠ "" ∧
      ofSummaries fingerprint summaries = .ok ⟨"", some certificateId⟩) ↔
    (∀ requestId, ¬ Told summaries requestId) ∧ ∃ summary ∈ summaries, summary.id ≠ "" := by
  have judged := judged_ofSummaries fingerprint summaries
  rw [← requestIds_eq_nil]
  constructor
  · rintro ⟨certificateId, filled, resolved⟩
    generalize ofSummaries fingerprint summaries = outcome at judged resolved
    cases judged with
    | nothing | untold | several => cases resolved
    | certificate requests certificates =>
      refine ⟨requests, ?_⟩
      -- If all records lacked an id, none would be told.
      by_contra untold
      simp only [not_exists, not_and, not_not] at untold
      rw [certificateId?_eq_none.mpr untold] at certificates
      cases certificates
    | @request requestId requests =>
      -- A request that is told of has an id.
      have told : Told summaries requestId := mem_requestIds.mp (by simp [requests])
      exact absurd (FingerprintMatch.mk.inj (Except.ok.inj resolved)).1 told.1
  · rintro ⟨requests, summary, found, filled⟩
    cases certificates : certificateId? summaries with
    | none => exact absurd (certificateId?_eq_none.mp certificates summary found) filled
    | some certificateId =>
      refine ⟨certificateId, ne_empty_of_certificateId? certificates, ?_⟩
      simp [ofSummaries, List.ne_nil_of_mem found, requests, certificates]

/-- Records that tell neither of a request nor of a certificate resolve to nothing. -/
theorem ofSummaries_of_untold (fingerprint : String) (found : summaries ≠ [])
    (untold : ∀ summary ∈ summaries, summary.requestId = "" ∧ summary.id = "") :
    ofSummaries fingerprint summaries = .error (.noRequest fingerprint fingerprint) := by
  have requests : requestIds summaries = [] := by
    rw [requestIds_eq_nil]
    rintro _ ⟨filled, summary, member, rfl⟩
    exact filled (untold summary member).1
  have certificates : certificateId? summaries = none :=
    certificateId?_eq_none.mpr fun summary member => (untold summary member).2
  simp [ofSummaries, found, requests, certificates]

/-- Neither the order of the records nor how often each comes makes a difference to what is told. -/
theorem alike_ofSummaries (fingerprint : String) {others : List CertificateSummary}
    (same : ∀ summary, summary ∈ others ↔ summary ∈ summaries) :
    Alike ((ofSummaries fingerprint summaries).mapError .failed)
      ((ofSummaries fingerprint others).mapError .failed) := by
  have requests : (requestIds summaries).Perm (requestIds others) := by
    rw [List.perm_ext_iff_of_nodup (listsTold_requestIds summaries).once
      (listsTold_requestIds others).once]
    simp [mem_requestIds, Told, same]
  have certificates : (certificateId? summaries).isSome = (certificateId? others).isSome := by
    rw [Bool.eq_iff_iff, Option.isSome_iff_ne_none, Option.isSome_iff_ne_none]
    simp [certificateId?_eq_none, same]
  have empty : others = [] ↔ summaries = [] := by simp [List.eq_nil_iff_forall_not_mem, same]
  have judged := judged_ofSummaries fingerprint summaries
  generalize ofSummaries fingerprint summaries = outcome at judged
  -- Each outcome on the one side leaves only its like on the other.
  cases judged with
  | nothing found =>
    rw [empty.mpr found]
    exact .failed _
  | untold found noRequests none =>
    rw [noRequests, List.nil_perm] at requests
    rw [none, eq_comm, Option.isSome_none, Option.isSome_eq_false_iff] at certificates
    simp only [ofSummaries, List.isEmpty_iff, mt empty.mp found, if_false, requests,
      Option.isNone_iff_eq_none.mp certificates]
    exact .failed _
  | certificate noRequests some =>
    rw [noRequests, List.nil_perm] at requests
    have found : others ≠ [] := fun none => by simp [empty.mp none, certificateId?] at some
    rw [some, eq_comm, Option.isSome_some, Option.isSome_iff_exists] at certificates
    obtain ⟨certificateId, told⟩ := certificates
    simp only [ofSummaries, List.isEmpty_iff, found, if_false, requests, told]
    exact .found "" rfl
  | request single =>
    rw [single, List.singleton_perm] at requests
    have found : others ≠ [] := fun none => by
      simp [empty.mp none, requestIds, distinct] at single
    simp only [ofSummaries, List.isEmpty_iff, found, if_false, ← requests]
    exact .found _ certificates
  | several several =>
    have found : others ≠ [] := fun none => by
      simp [empty.mp none, requestIds, distinct] at several
    rw [several] at requests
    -- A reordered list of two or more is a list of two or more.
    rcases reordered : requestIds others with _ | ⟨first, _ | ⟨second, rest⟩⟩
    · simp [reordered] at requests
    · simpa [reordered] using requests.length_eq
    · rw [reordered] at requests
      simp only [ofSummaries, List.isEmpty_iff, found, if_false, reordered]
      exact .ambiguous _ requests

end Records

end FingerprintMatch

namespace Resolution

open FingerprintMatch

/-- With a result told, a resolution comes to what is made of the records found. -/
theorem resolveFingerprint_of_told (session : Session) (thumbprint : String) {dialogue : Dialogue}
    {arrival : Arrival} {rest : List Arrival} {result : SearchResult}
    (next : dialogue.arrivals = arrival :: rest)
    (told : arrival.reply.Tells SearchResult.check 200 result) :
    ((resolveFingerprint session thumbprint).hold dialogue).1 =
      (ofSummaries (Fingerprint.normalize thumbprint) result.certificates).mapError .failed := by
  obtain ⟨later, _, held⟩ := hold_resolveFingerprint session thumbprint dialogue
  rw [held, (Dialogue.learns_decode_eq_ok _).mpr ⟨arrival, rest, next, told⟩]
  rfl

/--
A resolution tells of the one request that the records found tell of, and of none otherwise.

Several requests are listed in an error, and records that tell of nothing are an error as well.
Whichever records are found, neither their order nor repetitions among them make a difference.
-/
theorem resolveFingerprint_tells_sole_request (session : Session) (thumbprint : String)
    {dialogue : Dialogue} {arrival : Arrival} {rest : List Arrival} {result : SearchResult}
    (next : dialogue.arrivals = arrival :: rest)
    (told : arrival.reply.Tells SearchResult.check 200 result) :
    let fingerprint := Fingerprint.normalize thumbprint
    let records := result.certificates
    let outcome := ((resolveFingerprint session thumbprint).hold dialogue).1
    (records = [] → outcome = .error (.failed (.noCertificate fingerprint))) ∧
    ((∃ named ids, outcome = .error (.failed (.ambiguous named ids))) ↔
      ∃ one other, Told records one ∧ Told records other ∧ one ≠ other) ∧
    (∀ named ids, outcome = .error (.failed (.ambiguous named ids)) →
      named = fingerprint ∧ ListsTold records ids) ∧
    (∀ requestId, (requestId ≠ "" ∧ ∃ certificateId, outcome = .ok ⟨requestId, certificateId⟩) ↔
      Told records requestId ∧ ∀ other, Told records other → other = requestId) ∧
    ((∃ certificateId, certificateId ≠ "" ∧ outcome = .ok ⟨"", some certificateId⟩) ↔
      (∀ requestId, ¬ Told records requestId) ∧ ∃ record ∈ records, record.id ≠ "") ∧
    (records ≠ [] → (∀ record ∈ records, record.requestId = "" ∧ record.id = "") →
      outcome = .error (.failed (.noRequest fingerprint fingerprint))) ∧
    ∀ (other : Dialogue) (reply : Arrival) (others : List Arrival) (found : SearchResult),
      other.arrivals = reply :: others → reply.reply.Tells SearchResult.check 200 found →
      (∀ record, record ∈ found.certificates ↔ record ∈ records) →
        Alike outcome ((resolveFingerprint session thumbprint).hold other).1 := by
  intro fingerprint records outcome
  have judgement : outcome = (ofSummaries fingerprint records).mapError .failed :=
    resolveFingerprint_of_told session thumbprint next told
  -- A match is that of the judgement, and so is a failure.
  simp only [judgement, Outcome.mapError_eq_failed, Outcome.mapError_eq_ok]
  refine ⟨fun none => ?_, ofSummaries_eq_ambiguous fingerprint,
    fun named ids => listsTold_of_ambiguous, fun requestId => ?_,
    ofSummaries_eq_certificate fingerprint, ofSummaries_of_untold fingerprint,
    fun other reply others found next tells same => ?_⟩
  · rw [none]
    rfl
  · rw [← soleRequest_iff, ← ofSummaries_requestId fingerprint]
    -- A match is its request id and its certificate id.
    refine and_congr_right fun _ => ⟨?_, ?_⟩
    · rintro ⟨certificateId, resolved⟩
      exact ⟨_, resolved, rfl⟩
    · rintro ⟨⟨_, certificateId⟩, resolved, rfl⟩
      exact ⟨certificateId, resolved⟩
  · rw [resolveFingerprint_of_told session thumbprint next tells]
    exact alike_ofSummaries fingerprint same

/-- A reply to a search that tells of two certificates, each from a request of its own. -/
def twoRequestsReply : Reply := .response ⟨200, "OK", Utf8.encode
  ("\x7b\"certificates\":[\x7b\"certificateRequestId\":\"req-1\"\x7d," ++
    "\x7b\"certificateRequestId\":\"req-2\"\x7d]\x7d")⟩

/-- Two certificates from two requests are an ambiguity that lists the two. -/
theorem resolveFingerprint_two_requests :
    let dialogue : Dialogue := { arrivals := [⟨.zero, twoRequestsReply⟩] }
    ∃ ids, ((resolveFingerprint ⟨"key", {}⟩ "ab:cd").hold dialogue).1 =
        .error (.failed (.ambiguous "ABCD" ids)) ∧
      ListsTold [{ requestId := "req-1" }, { requestId := "req-2" }] ids := by
  intro dialogue
  have told : twoRequestsReply.Tells SearchResult.check 200
      ⟨0, [{ requestId := "req-1" }, { requestId := "req-2" }]⟩ :=
    ⟨_, rfl, rfl, by decide +kernel⟩
  have normal : Fingerprint.normalize "ab:cd" = "ABCD" := by decide +kernel
  obtain ⟨_, ambiguous, lists, _⟩ :=
    resolveFingerprint_tells_sole_request ⟨"key", {}⟩ "ab:cd" (rfl : dialogue.arrivals = _) told
  obtain ⟨named, ids, outcome⟩ := ambiguous.mpr
    ⟨"req-1", "req-2", ⟨by decide, _, .head _, rfl⟩, ⟨by decide, _, .tail _ (.head _), rfl⟩,
      by decide⟩
  obtain ⟨rfl, listed⟩ := lists named ids outcome
  rw [normal] at outcome
  exact ⟨ids, outcome, listed⟩

end Resolution

end Issuance
