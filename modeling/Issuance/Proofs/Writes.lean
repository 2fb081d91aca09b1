import Issuance.Lifecycle.Ledger
import Issuance.Proofs.Course
import Issuance.Proofs.Import
import Issuance.Proofs.Limit
import Issuance.Proofs.Renewal
import Issuance.Proofs.Thumbprint

/-! Every operation writes once at most, at its very end, and makes no call behind one that fails. -/

namespace Issuance

namespace Call

/-- A call that hands in certificates issued elsewhere. -/
def Uploads (call : Call) : Prop := call.method = "POST" ∧ call.path = Endpoint.certificates

/-- A call that writes: it asks for a certificate to be issued, or hands one in. -/
def Writes (call : Call) : Prop := call.Submits ∨ call.Uploads

/-- What is not posted writes nothing. -/
theorem not_writes_of_method {call : Call} (read : call.method = "GET") : ¬ call.Writes := by
  intro writes
  have posted : call.method = "POST" := writes.elim And.left And.left
  rw [read] at posted
  exact absurd posted (by decide)

/-- A search is posted to a path of its own, whatever is posted. -/
theorem not_writes_search (session : Session) (payload : Value) :
    ¬ (posting session Endpoint.certificateSearch payload).Writes := by
  intro writes
  rcases writes with submits | uploads
  · exact absurd submits.2 (by decide : Endpoint.certificateSearch ≠ Endpoint.certificateRequests)
  · exact absurd uploads.2 (by decide : Endpoint.certificateSearch ≠ Endpoint.certificates)

end Call

/-- Wherever the dialogue stands, a run makes no call that writes. -/
def Run.Reads {α : Type} (run : Run α) : Prop := run.Calls fun calls => ∀ call ∈ calls, ¬ call.Writes

namespace Run.Reads

variable {α β : Type}

theorem of_silent {run : Run α} (silent : run.Calls (· = [])) : run.Reads :=
  silent.mono fun calls none => by simp [none]

theorem of_one {run : Run α} {call : Call} (one : run.Calls (· = [call])) (reads : ¬ call.Writes) :
    run.Reads :=
  one.mono fun calls only => by simpa [only] using reads

theorem pure (value : α) : (Pure.pure value : Run α).Reads := of_silent (.pure value)

theorem fail (failure : Failure) : (Run.fail failure : Run α).Reads := of_silent (.fail failure)

theorem log (level : Level) (event : String) (fields : Members) :
    (Run.log level event fields).Reads := of_silent (.log level event fields)

/-- A run in two parts writes nothing if neither part does. -/
theorem bind {run : Run α} {next : α → Run β} (first : run.Reads)
    (second : ∀ value, (next value).Reads) : (run >>= next).Reads := by
  refine Calls.bind first second (fun _ known => known) ?_
  intro calls others quiet quietToo call member
  exact (List.mem_append.mp member).elim (quiet call) (quietToo call)

theorem ofOutcome_bind (outcome : Outcome α) {next : α → Run β}
    (second : ∀ value, (next value).Reads) : (ofOutcome outcome >>= next).Reads :=
  bind (of_silent (.ofOutcome outcome)) second

end Run.Reads

namespace Client

variable (session : Session)

theorem reads_account (apiKey : String) : (account apiKey).Reads :=
  .of_one (.of_read (hold_account · apiKey)) (Call.not_writes_of_method rfl)

theorem reads_issuingTemplate (application templateAlias : String) :
    (issuingTemplate session application templateAlias).Reads :=
  .of_one (.of_read (hold_issuingTemplate session · application templateAlias))
    (Call.not_writes_of_method rfl)

theorem reads_status (requestId : String) : (status session requestId).Reads :=
  .of_one (.of_read (hold_status session · requestId)) (Call.not_writes_of_method rfl)

theorem reads_certificate (certificateId : String) : (certificate session certificateId).Reads :=
  .of_one (.of_read (hold_certificate session · certificateId)) (Call.not_writes_of_method rfl)

theorem reads_application (name : String) : (application session name).Reads :=
  .of_one (.of_read (hold_application session · name)) (Call.not_writes_of_method rfl)

theorem reads_search (wanted : Search) : (search session wanted).Reads :=
  Run.Reads.bind (.of_silent (.ofPlatform wanted.encode)) fun payload =>
    .of_one (.of_read (hold_send_read (.posting session _ payload) _))
      (Call.not_writes_search session payload)

theorem reads_contents (certificateId : String) (order : Option ChainOrder) :
    (contents session certificateId order).Reads :=
  .of_one (.of_read (hold_send _)) (Call.not_writes_of_method rfl)

end Client

namespace Polling

variable (session : Session) (requestId : String) (timeout : Double)

theorem reads_observe : (observe session requestId timeout).Reads := by
  refine Run.Reads.bind (Client.reads_status session requestId) fun status => ?_
  split
  · exact (Run.Reads.log _ _ _).bind fun _ => .fail _
  · split
    · exact .fail _
    · exact .pure _

theorem reads_readUntilFinal (sleeper : Sleeper) (interval start : Double) (reads : Nat) :
    (readUntilFinal sleeper session requestId timeout interval start reads).Reads := by
  -- The induction is on the reads that are left, each of which is one look at the status.
  induction reads with
  | zero => exact .of_silent (.throw _)
  | succ reads ih =>
    refine (reads_observe session requestId timeout).bind fun status => ?_
    split
    · exact .pure _
    · refine Run.Reads.bind (.of_silent .get) fun dialogue => ?_
      -- The wait fails for the time it has taken, or goes on behind a sleep.
      split
      · exact (Run.Reads.log _ _ _).bind fun _ => .fail _
      · exact Run.Reads.bind (.of_silent (.sleep sleeper interval)) fun _ => ih

theorem reads_awaitIssuance (sleeper : Sleeper) (session : Option Session) (interval : Double)
    (requestId : Option String) (timeout : Double) :
    (awaitIssuance sleeper session interval requestId timeout).Reads := by
  -- Without the id of a request there is nothing to wait for.
  unfold awaitIssuance
  split
  · exact .pure _
  · refine Run.Reads.bind ?_ fun session => Run.Reads.bind (.of_silent .get) fun dialogue => ?_
    · cases session with
      | none => exact .of_silent (.throw _)
      | some found => exact .pure found
    · refine (reads_readUntilFinal session _ timeout sleeper interval _ _).bind fun status => ?_
      refine Run.Reads.bind ?_ fun _ => .pure _
      unfold issuedCertificate
      split
      · exact .fail _
      · exact (Run.Reads.log _ _ _).bind fun _ => .pure _

end Polling

namespace Resolution

theorem reads_resolveFingerprint (session : Session) (thumbprint : String) :
    (resolveFingerprint session thumbprint).Reads := by
  refine Run.Reads.bind (Client.reads_search session _) fun result => ?_
  refine Run.Reads.bind ?_ fun _ => .of_silent (.ofOutcome _)
  unfold logMatch
  split
  · exact .log _ _ _
  · exact .log _ _ _
  · exact .pure _

theorem reads_renewalTarget (session : Session) (renewal : RenewalRequest) :
    (renewalTarget (some session) renewal).Reads := by
  refine .ofOutcome_bind _ fun target => ?_
  -- A request that is named is taken as it is, and only a fingerprint is searched for.
  split
  · exact .pure _
  · refine Run.Reads.bind (.pure session) fun session => ?_
    refine (reads_resolveFingerprint session _).bind fun found => ?_
    split
    · exact .fail _
    · exact .pure _

theorem reads_verifyLineage (session : Session) (certificateId requestId : String)
    (fingerprint : Option String) :
    (verifyLineage session certificateId requestId fingerprint).Reads := by
  refine Run.Reads.bind (Client.reads_certificate session certificateId) fun certificate => ?_
  split
  · exact .pure _
  · exact .fail _

end Resolution

namespace Manager

variable (manager : Manager) (session : Option Session)

theorem reads_authenticate (apiKey : Option String) : (authenticate apiKey).Reads := by
  unfold authenticate
  split
  · exact .fail _
  · refine (Client.reads_account _).bind fun account => ?_
    split
    · exact .fail _
    · exact (Run.Reads.log _ _ _).bind fun _ => .pure _

theorem reads_readZone (zone : Option String) : (manager.readZone session zone).Reads := by
  refine .ofOutcome_bind _ fun session => .ofOutcome_bind _ fun zone => ?_
  split
  · exact .fail _
  · exact Client.reads_issuingTemplate session _ _

theorem reads_assemble (body : Bytes) (option : ChainOption) :
    (Chain.assemble body option).Reads := by
  unfold Chain.assemble
  split
  · exact .fail _
  · exact (Run.Reads.log _ _ _).bind fun _ => .pure _

theorem reads_fetchCertificate (session : Session) (certificateId : String) :
    (fetchCertificate session certificateId).Reads := by
  refine (Client.reads_contents session certificateId none).bind fun response => ?_
  split
  · exact reads_assemble response.body .ignore
  · exact .fail _

theorem reads_fetchChain (session : Session) (request : CertificateRequest)
    (pickupId certificateId : String) :
    (fetchChain session request pickupId certificateId).Reads := by
  refine (Client.reads_contents session certificateId _).bind fun response => ?_
  split
  · exact (Run.Reads.log _ _ _).bind fun _ => .fail _
  · split
    · exact .fail _
    · refine (reads_assemble response.body _).bind fun collection => ?_
      exact .ofOutcome_bind _ fun _ => (Run.Reads.log _ _ _).bind fun _ => .pure _

theorem reads_retrieveSubmitted (session : Session) (request : CertificateRequest)
    (pickupId : String) : (manager.retrieveSubmitted session request pickupId).Reads := by
  refine (Polling.reads_awaitIssuance _ _ _ _ _).bind fun waited => ?_
  split
  · exact .fail _
  · exact reads_fetchChain session request pickupId _

theorem reads_retrieveCertificate (request : CertificateRequest) :
    (manager.retrieveCertificate session request).Reads := by
  refine .ofOutcome_bind _ fun session => ?_
  split
  · exact reads_fetchCertificate session _
  · exact reads_retrieveSubmitted manager session request _
  · -- By a thumbprint there is a search before the retrieval of what it leads to.
    refine (Resolution.reads_resolveFingerprint session _).bind fun found => ?_
    split
    · exact Run.Reads.bind (.of_silent (.recordPickup _)) fun _ =>
        reads_retrieveSubmitted manager session _ _
    · exact reads_fetchCertificate session _
    · exact .fail _
  · exact .fail _

theorem reads_prepareRequest (request : CertificateRequest) :
    (manager.prepareRequest session request).Reads := by
  unfold prepareRequest
  split
  · exact .fail _
  · refine .ofOutcome_bind _ fun account => ?_
    split
    · exact .fail _
    · refine .ofOutcome_bind _ fun zone => ?_
      refine Run.Reads.bind ?_ fun _ => Run.Reads.bind (.of_silent (.ofPlatform _)) fun _ => .pure _
      exact (Client.reads_application account _).bind fun _ => .ofOutcome_bind _ fun _ => .pure _

theorem reads_clearRenewal (renewal : RenewalRequest) : (clearRenewal session renewal).Reads := by
  refine .ofOutcome_bind _ fun account => ?_
  split
  · refine (Resolution.reads_renewalTarget account renewal).bind fun target => ?_
    refine (Client.reads_status account target).bind fun previous => ?_
    split
    · exact .fail _
    · exact (Resolution.reads_verifyLineage account _ _ _).bind fun _ => .pure _
  · exact .fail _

theorem reads_applicationFor (session : Session) (request : ImportRequest) :
    (manager.applicationFor session request).Reads := by
  unfold applicationFor
  split
  · exact .pure _
  · refine .ofOutcome_bind _ fun zone => ?_
    exact (Client.reads_application session _).bind fun _ => .pure _

/-- What is submitted and recorded is submitted by one call. -/
theorem calls_submitRecorded (session : Session) (submission : Submission) (event : String)
    (fields : String → Members) :
    (submitRecorded session submission event fields).Calls (· = [.submission session submission]) := by
  refine Run.Calls.bind_silent (.of_read (Client.hold_submit session · submission)) fun receipt => ?_
  -- The pickup id is recorded and logged without a call.
  refine Run.Calls.silent_bind (.recordPickup _) (fun _ => ?_) rfl
  exact Run.Calls.silent_bind (.log _ _ _) (fun _ => .pure _) rfl

/-- A prepared request ends with its one submission. -/
theorem calls_submitPrepared (prepared : PreparedRequest) :
    (submitPrepared prepared).Calls (· = [.submission prepared.account prepared.submission]) :=
  calls_submitRecorded prepared.account prepared.submission "Certificate request submitted" _

/-- A cleared renewal ends with its one submission. -/
theorem calls_submitRenewal (cleared : ClearedRenewal) :
    (submitRenewal cleared).Calls (· = [.submission cleared.account
      (renewalSubmission cleared.request cleared.csr cleared.previous)]) := by
  rw [submitRenewal_eq]
  exact calls_submitRecorded _ _ _ _

theorem calls_upload (session : Session) (wanted : Upload) :
    (upload session wanted).Calls (· = [.upload session wanted]) := by
  refine .of_call uploadLearned (hold_upload session wanted) ?_
  intro stop value given
  unfold uploadLearned at given
  split at given
  · cases given
  · cases given

/--
The calls of a listing up to a limit: none, or a lookup and searches for pages.

The pages are consecutive from the first on, and no more than the limit asks for.
-/
def ListingCalls (limit : Nat) (calls : List Call) : Prop :=
  calls = [] ∨ ∃ session name expression, ∃ count ≤ (limit + 49) / 50,
    calls = .application session name :: (List.range count).map (.page session expression)

section Listing

variable {session : Session} {expression : Expression}

/-- From a page on, a listing searches page after page, for as many as the limit asks for at most. -/
theorem calls_listingFrom (shallow : expression.Shallow) (pages limit page : Nat) :
    (listingFrom session expression pages limit page).Calls fun calls =>
      ∃ count ≤ (limit + 49) / 50,
        calls = (List.range' page count).map (.page session expression) := by
  have none : ∀ (limit page : Nat) (calls : List Call), calls = [] → ∃ count ≤ (limit + 49) / 50,
      calls = (List.range' page count).map (.page session expression) :=
    fun limit page calls empty => ⟨0, Nat.zero_le _, by rw [empty]; rfl⟩
  -- The induction is on the pages allowed for, while the limit shrinks and the page moves on.
  induction pages generalizing limit page with
  | zero => exact (Run.Calls.pure _).mono (none limit page)
  | succ pages ih =>
    by_cases left : limit = 0
    · unfold listingFrom
      rw [if_pos left]
      exact (Run.Calls.pure _).mono (none limit page)
    · rw [listingFrom_succ left]
      -- Each search uses up a page of the limit, or what is left of it.
      have rest : ∀ result, (listingAfter session expression pages limit page result).Calls
          fun calls => ∃ count ≤ (limit - 50 + 49) / 50,
            calls = (List.range' (page + 1) count).map (.page session expression) := by
        intro result
        simp only [listingAfter]
        split
        · exact (Run.Calls.pure _).mono (none (limit - 50) (page + 1))
        · exact (ih (limit - 50) (page + 1)).bind_silent fun _ => .pure _
      refine Run.Calls.bind (.of_read (Client.hold_search session · shallow)) rest ?_ ?_
      · intro calls only
        exact ⟨1, by omega, by rw [only]; rfl⟩
      · intro calls others only more
        obtain ⟨count, bound, rest⟩ := more
        exact ⟨count + 1, by omega, by rw [only, rest, List.range'_succ]; rfl⟩

/-- A listing never comes to the end of a bound on its pages that the limit fits into. -/
theorem listingFrom_of_enough {pages bound : Nat} {limit : Nat} (page : Nat)
    (enough : (limit + 49) / 50 ≤ pages) (enoughToo : (limit + 49) / 50 ≤ bound) :
    listingFrom session expression pages limit page =
      listingFrom session expression bound limit page := by
  -- Both bounds shrink along with the limit, and the limit is used up before either of them.
  induction pages generalizing bound limit page with
  | zero =>
    obtain rfl : limit = 0 := by omega
    cases bound <;> rfl
  | succ pages ih =>
    by_cases left : limit = 0
    · subst left
      cases bound <;> rfl
    · obtain ⟨bound, rfl⟩ := Nat.exists_eq_succ_of_ne_zero (by omega : bound ≠ 0)
      rw [listingFrom_succ left, listingFrom_succ left]
      -- One page takes fifty off the limit, and one off either bound.
      have rest : ∀ result, listingAfter session expression pages limit page result =
          listingAfter session expression bound limit page result := by
        intro result
        simp only [listingAfter]
        have same : listingFrom session expression pages (limit - pageSize) (page + 1) =
            listingFrom session expression bound (limit - pageSize) (page + 1) := by
          apply ih
          · simp only [pageSize]
            omega
          · simp only [pageSize]
            omega
        rw [same]
      rw [funext rest]

/-- A listing is a lookup of the application, and behind it searches for its first pages. -/
theorem calls_listCertificates (manager : Manager) (now : Moment) (session : Option Session)
    (filter : Option CertificateFilter) (zone : Option String) :
    (manager.listCertificates now session filter zone).Calls
      (ListingCalls (limitOf (filter.getD {}))) := by
  refine Run.Calls.silent_bind (.ofOutcome _) (fun session => ?_) (.inl rfl)
  refine Run.Calls.silent_bind (.ofOutcome _) (fun zone => ?_) (.inl rfl)
  -- The pages are numbered from the first on, as many as are searched for.
  have pages (application : Application) :
      (listApplication now session (filter.getD {}) zone application).Calls fun calls =>
        ∃ expression, ∃ count ≤ (limitOf (filter.getD {}) + 49) / 50,
          calls = (List.range count).map (.page session expression) := by
    have shallow := shallow_listingExpression application.id (filter.getD {}).withExpired now
    refine Run.Calls.bind_silent ((calls_listingFrom shallow _ _ 0).mono fun calls listed => ?_)
      fun found => ?_
    · obtain ⟨count, bound, same⟩ := listed
      exact ⟨_, count, bound, by rw [same, List.range_eq_range']⟩
    · exact Run.Calls.bind_silent (.log _ _ _) fun _ => .pure _
  refine Run.Calls.bind (.of_read (Client.hold_application session · zone.application)) pages ?_ ?_
  · intro calls only
    exact .inr ⟨session, zone.application, listingExpression "" false now, 0, Nat.zero_le _, only⟩
  · intro calls others only more
    obtain ⟨expression, count, bound, rest⟩ := more
    exact .inr ⟨session, zone.application, expression, count, bound, by rw [only, rest]; rfl⟩

theorem reads_listCertificates (manager : Manager) (now : Moment) (session : Option Session)
    (filter : Option CertificateFilter) (zone : Option String) :
    (manager.listCertificates now session filter zone).Reads := by
  -- The calls of a listing are known one by one, and none of them writes.
  refine (calls_listCertificates manager now session filter zone).mono fun calls listed => ?_
  intro call member
  rcases listed with rfl | ⟨session, name, expression, count, _, rfl⟩
  · cases member
  · rcases List.mem_cons.mp member with rfl | member
    · exact Call.not_writes_of_method rfl
    · obtain ⟨page, _, rfl⟩ := List.mem_map.mp member
      exact Call.not_writes_search session _

end Listing

end Manager

/-- A run reads first, and ends with calls that may write. -/
def Run.WritesLast {α : Type} (run : Run α) (final : List Call → Prop) : Prop :=
  run.Calls fun calls => ∃ reads writes, calls = reads ++ writes ∧
    (∀ call ∈ reads, ¬ call.Writes) ∧ final writes

namespace Run.WritesLast

variable {α β : Type} {final : List Call → Prop}

theorem of_calls {run : Run α} (calls : run.Calls final) : run.WritesLast final :=
  calls.mono fun writes known => ⟨[], writes, rfl, nofun, known⟩

/-- What writes nothing leaves the end of the run to nothing at all. -/
theorem of_reads {run : Run α} (reads : run.Reads) (nothing : final []) : run.WritesLast final :=
  reads.mono fun calls quiet => ⟨calls, [], (List.append_nil calls).symm, quiet, nothing⟩

/-- Behind a part that reads, what is written last stays last. -/
theorem reads_bind {run : Run α} {next : α → Run β} (first : run.Reads)
    (second : ∀ value, (next value).WritesLast final) (nothing : final []) :
    (run >>= next).WritesLast final := by
  refine Calls.bind first second ?_ ?_
  · intro calls quiet
    exact ⟨calls, [], (List.append_nil calls).symm, quiet, nothing⟩
  · intro calls others quiet more
    obtain ⟨reads, writes, rfl, quietToo, known⟩ := more
    refine ⟨calls ++ reads, writes, (List.append_assoc ..).symm, ?_, known⟩
    intro call member
    exact (List.mem_append.mp member).elim (quiet call) (quietToo call)

end Run.WritesLast

/--
The calls that an operation may end with, the first of which writes.

A request and a renewal end with it, and an import may search for what it has handed in.
-/
inductive Operation.FinalCalls : Operation → List Call → Prop
  | nothing (operation : Operation) : FinalCalls operation []
  | request (name : String) {post : Call} (submits : post.Submits) :
      FinalCalls (.request name) [post]
  | renewal (renewal : RenewalRequest) (name : Option String) {post : Call}
      (submits : post.Submits) : FinalCalls (.renew renewal name) [post]
  | upload (wanted : ImportRequest) {post : Call} (uploads : post.Uploads) :
      FinalCalls (.importCertificate wanted) [post]
  | settled (wanted : ImportRequest) {post : Call} (uploads : post.Uploads) (session : Session)
      (fingerprint : String) : FinalCalls (.importCertificate wanted)
        [post, .search session (Resolution.fingerprintSearch fingerprint)]

namespace Operation

/-- An import hands in one certificate, and once that is taken it searches for it. -/
theorem writesLast_importCertificate (manager : Manager) (session : Option Session)
    (wanted : ImportRequest) :
    (manager.importCertificate session wanted).WritesLast (FinalCalls (.importCertificate wanted)) := by
  have nothing : FinalCalls (.importCertificate wanted) [] := .nothing _
  refine .reads_bind (.of_silent (.ofOutcome _)) (fun session => ?_) nothing
  split
  · exact .of_reads (.fail _) nothing
  · next certificate _ =>
    refine .reads_bind (Manager.reads_applicationFor manager session wanted)
      (fun applicationId => .of_calls ?_) nothing
    let search : Call := .search session (Resolution.fingerprintSearch certificate.fingerprint)
    -- What is made of the answer to the upload calls nothing, until the one search.
    refine Run.Calls.bind (Manager.calls_upload session _)
      (fun response => (?_ : Run.Calls _ fun calls => calls = [] ∨ calls = [search])) ?_ ?_
    · refine Run.Calls.silent_bind (.ofOutcome _) (fun _ => ?_) (.inl rfl)
      refine Run.Calls.silent_bind (.sleep _ _) (fun _ => ?_) (.inl rfl)
      refine Run.Calls.bind_silent (Run.Calls.mono (.of_read (Client.hold_search session ·
        (Resolution.shallow_fingerprintSearch _))) fun calls => .inr) fun found => ?_
      split
      · exact Run.Calls.silent_bind (.log _ _ _) (fun _ => .pure _) rfl
      · exact .fail _
    · intro calls only
      rw [only]
      exact .upload wanted ⟨rfl, rfl⟩
    · intro calls others only more
      rcases more with none | one
      · rw [only, none]
        exact .upload wanted ⟨rfl, rfl⟩
      · rw [only, one]
        exact .settled wanted ⟨rfl, rfl⟩ session certificate.fingerprint

/-- Whatever an operation reads, it reads before it writes. -/
theorem writesLast_run (desk : Desk) (operation : Operation) :
    (operation.run desk).WritesLast operation.FinalCalls := by
  -- What only reads may end with nothing. A request, a renewal and an import end with what they write.
  cases operation with
  | authenticate apiKey =>
    exact .of_reads (.map _ (Manager.reads_authenticate apiKey)) (.nothing _)
  | readZone zone =>
    exact .of_reads (.map _ (Manager.reads_readZone desk.manager desk.session zone)) (.nothing _)
  | request name =>
    refine .map _ ?_
    rw [Manager.requestCertificate_eq]
    refine Run.WritesLast.reads_bind (Manager.reads_prepareRequest desk.manager desk.session _)
      (fun prepared => .of_calls ?_) (.nothing _)
    refine (Manager.calls_submitPrepared prepared).mono ?_
    intro calls only
    rw [only]
    exact .request name ⟨rfl, rfl⟩
  | retrieve name =>
    exact .of_reads (.map _ (Manager.reads_retrieveCertificate desk.manager desk.session _))
      (.nothing _)
  | renew renewal name =>
    refine .map _ ?_
    rw [Manager.renewCertificate_eq]
    refine Run.WritesLast.reads_bind (Manager.reads_clearRenewal desk.session _)
      (fun cleared => .of_calls ?_) (.nothing _)
    refine (Manager.calls_submitRenewal cleared).mono ?_
    intro calls only
    rw [only]
    exact .renewal renewal name ⟨rfl, rfl⟩
  | importCertificate wanted =>
    exact .map _ (writesLast_importCertificate desk.manager desk.session wanted)
  | list filter zone =>
    exact .of_reads
      (.map _ (Manager.reads_listCertificates desk.manager desk.now desk.session filter zone))
      (.nothing _)
  | await requestId timeout =>
    exact .of_reads (.map _ (Polling.reads_awaitIssuance _ _ _ requestId timeout)) (.nothing _)

end Operation

/--
An operation writes once at most, and by the last thing it does but for the search of an import.

No operation makes a call behind one that no response has answered.
A listing comes to its end: it searches for no more pages than its limit asks for.
-/
theorem Desk.perform_writes_last (desk : Desk) (operation : Operation) (arrivals : List Arrival) :
    let sent := (desk.perform operation arrivals).2.1.sent
    (∃ reads writes, sent = reads ++ writes ∧ (∀ call ∈ reads, ¬ call.Writes) ∧
      operation.FinalCalls writes) ∧
    (∀ position < sent.length, ¬ ({ arrivals } : Dialogue).Answers position →
      position + 1 = sent.length) ∧
    ∀ filter zone, operation = .list filter zone →
      let limit := ((filter.getD {}).limit.getD 100000000).toNat
      Manager.ListingCalls limit sent ∧
        ∀ session expression bound, (limit + 49) / 50 ≤ bound →
          Manager.listingFrom session expression bound limit 0 =
            Manager.listingFrom session expression limit limit 0 := by
  intro sent
  have start : sent = ((operation.run desk).hold { arrivals }).2.sent := rfl
  refine ⟨?_, ?_, ?_⟩
  · -- The calls of a fresh dialogue are those of the course that its run takes.
    obtain ⟨calls, written, course⟩ := (operation.writesLast_run desk).course { arrivals }
    rw [start, course.sent]
    exact written
  · obtain ⟨calls, _, course⟩ := (operation.writesLast_run desk).course { arrivals }
    rw [start, course.sent]
    exact fun position early unanswered => course.last_of_unanswered early unanswered
  · rintro filter zone rfl limit
    refine ⟨?_, fun session expression bound enough => ?_⟩
    · -- A listing is known to take a course of its own, of a lookup and of pages.
      obtain ⟨calls, listed, course⟩ := (Run.Calls.map Operation.Result.listing
        (Manager.calls_listCertificates desk.manager desk.now desk.session filter zone)).course
          { arrivals }
      rw [Manager.limitOf_eq_toNat] at listed
      rw [start]
      exact course.sent ▸ listed
    · exact Manager.listingFrom_of_enough 0 enough (by omega)

end Issuance
