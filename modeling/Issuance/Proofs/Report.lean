import Issuance.Proofs.Limit

/-! What a listing reports: its count is right, and its pages one too many if they use up the limit. -/

namespace Issuance

/-- Wherever the dialogue stands, a run logs none but events that pass a test. -/
structure Run.Logs {α : Type} (run : Run α) (events : String → Prop) : Prop where
  logged : ∀ dialogue, ∃ entries, (run.hold dialogue).2.log = dialogue.log ++ entries ∧
    ∀ entry ∈ entries, events entry.event

namespace Run.Logs

variable {α β : Type} {events : String → Prop}

/-- A run that leaves the log as it is logs nothing that could fail the test. -/
theorem of_silent {run : Run α} (silent : ∀ dialogue, (run.hold dialogue).2.log = dialogue.log) :
    run.Logs events :=
  ⟨fun dialogue => ⟨[], by rw [silent, List.append_nil], nofun⟩⟩

theorem pure (value : α) : (Pure.pure value : Run α).Logs events := of_silent fun _ => rfl

theorem ofOutcome (outcome : Outcome α) : (Run.ofOutcome outcome).Logs events :=
  of_silent fun dialogue => by rw [hold_ofOutcome]

/-- The events of a run in two parts are those of the one, and behind them those of the other. -/
theorem bind {run : Run α} {next : α → Run β} (first : run.Logs events)
    (second : ∀ value, (next value).Logs events) : (run >>= next).Logs events := by
  constructor
  intro dialogue
  obtain ⟨entries, log, known⟩ := first.logged dialogue
  rw [hold_bind]
  cases held : run.hold dialogue with
  | mk outcome later =>
    rw [held] at log
    -- A first part that stops is followed by nothing that could log.
    cases outcome with
    | error stop => exact ⟨entries, log, known⟩
    | ok value =>
      obtain ⟨others, more, knownToo⟩ := (second value).logged later
      refine ⟨entries ++ others, ?_, ?_⟩
      · rw [more, log, List.append_assoc]
      · intro entry member
        exact (List.mem_append.mp member).elim (known entry) (knownToo entry)

end Run.Logs

/-- The events that a call logs: that it is made, and what becomes of it without a response. -/
def callEvents : List String :=
  ["Certificate service request", "Certificate service timeout",
    "Certificate service connection error"]

/-- A call logs nothing but events of its own. -/
theorem Dialogue.called_log (dialogue : Dialogue) (call : Call) :
    ∃ entries, (dialogue.called call).log = dialogue.log ++ entries ∧
      ∀ entry ∈ entries, entry.event ∈ callEvents := by
  rcases dialogue with ⟨_ | ⟨⟨delay, reply⟩, rest⟩, _, _, _, _, _⟩
  -- That the call is made is logged before its reply, of which there may be none.
  · exact ⟨[_], rfl, by simp [callEvents]⟩
  · cases reply with
    | response response => exact ⟨[_], rfl, by simp [callEvents]⟩
    | timeout text => exact ⟨[_, _], List.append_assoc .., by simp [callEvents]⟩
    | broken text => exact ⟨[_, _], List.append_assoc .., by simp [callEvents]⟩
    | abandoned reason => exact ⟨[_], rfl, by simp [callEvents]⟩

/-- Reading the response to a call logs what the call does. -/
theorem Run.Logs.of_read {α : Type} {run : Run α} {call : Call} {read : Response → Outcome α}
    (held : ∀ dialogue, run.hold dialogue = (dialogue.learns read, dialogue.called call)) :
    run.Logs (· ∈ callEvents) := by
  constructor
  intro dialogue
  rw [held]
  exact dialogue.called_log call

/-- A call that looks for certificates. -/
def Call.Searches (call : Call) : Prop :=
  call.method = "POST" ∧ call.path = Endpoint.certificateSearch

instance (call : Call) : Decidable call.Searches :=
  inferInstanceAs (Decidable (call.method = "POST" ∧ call.path = Endpoint.certificateSearch))

/-- The calls of a listing are a lookup and searches, one for each page. -/
theorem ListingReplies.countP_calls {manager : Manager} {session : Option Session}
    {given : Option String} {limit : Nat} {arrivals : List Arrival}
    (replies : ListingReplies manager session given limit arrivals) (withExpired : Bool)
    (now : Moment) :
    (replies.calls withExpired now).countP (Call.Searches ·) = replies.pages.length := by
  have lookup : ¬ (Call.application replies.account replies.zone.application).Searches :=
    fun searches => absurd searches.1 (by decide : ("GET" : String) ≠ "POST")
  -- Of all calls, only the first is no search.
  have page : ∀ call ∈ (List.range replies.pages.length).map (Call.page replies.account
      (Manager.listingExpression replies.application.id withExpired now)), call.Searches := by
    intro call member
    obtain ⟨number, _, rfl⟩ := List.mem_map.mp member
    exact ⟨rfl, rfl⟩
  unfold calls
  rw [List.countP_cons_of_neg (by simpa using lookup),
    List.countP_eq_length.mpr (by simpa using page), List.length_map, List.length_range]

namespace Manager

/-- Pages use up a limit to the last record: each of them is full, and nothing is left over. -/
def UsesUp (limit : Nat) (pages : List SearchResult) : Prop :=
  limit = 50 * pages.length ∧ ∀ page ∈ pages, 50 ≤ page.certificates.length

instance (limit : Nat) (pages : List SearchResult) : Decidable (UsesUp limit pages) :=
  inferInstanceAs (Decidable (limit = 50 * pages.length ∧
    ∀ page ∈ pages, 50 ≤ page.certificates.length))

/-- All pages of a listing are full if they use up the limit, and all but the last otherwise. -/
theorem fullPages_succ {limit : Nat} {pages : List SearchResult}
    (listed : ListedPages limit pages) :
    fullPages limit pages + 1 = if UsesUp limit pages then pages.length + 1 else pages.length := by
  induction listed with
  | usedUp => rfl
  | @short limit page left short =>
    -- A limit that one page could use up is a full page, and this one is not full.
    have leavesSome : ¬ UsesUp limit [page] := by
      intro usesUp
      have whole : limit = 50 * 1 := usesUp.1
      have filled := usesUp.2 page List.mem_cons_self
      omega
    rw [if_neg leavesSome, fullPages_cons, if_neg (by omega)]
    rfl
  | @full limit page others full rest ih =>
    -- A full page takes fifty off the limit, so that it is up to the others to use up what is left.
    have others_iff : UsesUp limit (page :: others) ↔ UsesUp (limit - 50) others := by
      unfold UsesUp
      rw [List.forall_mem_cons, List.length_cons]
      constructor
      · intro usesUp
        exact ⟨by omega, usesUp.2.2⟩
      · intro usesUp
        exact ⟨by omega, by omega, usesUp.2⟩
    rw [fullPages_cons, if_pos full, List.length_cons, Nat.add_assoc, ih]
    simp only [others_iff]
    split <;> omega

/-- The event that a listing reports. -/
def listingEvent : String := "Listed certificates"

/-- What a listing reports of a zone: how many certificates it returns, and a number of pages. -/
def listingReport (zone : Zone) (count pages : Nat) : LogEntry :=
  ⟨.debug, listingEvent,
    [("zone", .text zone.text), ("count", .int count), ("pages", .int pages)]⟩

/-- Reports of listings, among the events that have been logged. -/
def reportsOf (log : List LogEntry) : List LogEntry :=
  log.filter fun entry => entry.event = listingEvent

/-- Before its report, a listing logs nothing but what its calls log. -/
theorem logs_listPages (manager : Manager) (now : Moment) (session : Option Session)
    (filter : Option CertificateFilter) (given : Option String) :
    (manager.listPages now session filter given).Logs (· ∈ callEvents) := by
  have pages (session : Session) {expression : Expression} (shallow : expression.Shallow)
      (bound limit page : Nat) : (listingFrom session expression bound limit page).Logs (· ∈ callEvents) := by
    -- The induction is on the pages allowed for; each of them is one search.
    induction bound generalizing limit page with
    | zero => exact .pure _
    | succ bound ih =>
      by_cases left : limit = 0
      · unfold listingFrom
        rw [if_pos left]
        exact .pure _
      · rw [listingFrom_succ left]
        refine Run.Logs.bind (.of_read (Client.hold_search session · shallow)) fun result => ?_
        simp only [listingAfter]
        split
        · exact .pure _
        · exact (ih _ _).bind fun _ => .pure _
  refine Run.Logs.bind (.ofOutcome _) fun session => Run.Logs.bind (.ofOutcome _) fun zone => ?_
  refine Run.Logs.bind (.of_read (Client.hold_application session · zone.application)) fun _ => ?_
  exact (pages _ (shallow_listingExpression _ _ _) _ _ _).bind fun _ => .pure _

/-- Before its report, a listing has reported nothing. -/
theorem reportsOf_listPages (manager : Manager) (now : Moment) (session : Option Session)
    (filter : Option CertificateFilter) (given : Option String) (arrivals : List Arrival) :
    reportsOf ((manager.listPages now session filter given).hold { arrivals }).2.log = [] := by
  obtain ⟨entries, log, known⟩ :=
    (logs_listPages manager now session filter given).logged { arrivals }
  rw [log, List.nil_append]
  refine List.filter_eq_nil_iff.mpr fun entry member => ?_
  have called := known entry member
  -- The event of a report is none of those that calls log.
  intro report
  rw [of_decide_eq_true report] at called
  exact absurd called (by decide)

/--
A listing that returns reports once, and one that does not return reports nothing.

The report counts what is returned.
Its pages are those that were searched for, but one more if they use up the limit.
-/
theorem listCertificates_reports (manager : Manager) (now : Moment) (session : Option Session)
    (filter : Option CertificateFilter) (given : Option String) (arrivals : List Arrival) :
    let limit := ((filter.getD {}).limit.getD 100000000).toNat
    let held := (manager.listCertificates now session filter given).on arrivals
    let searches := held.2.sent.countP (Call.Searches ·)
    (∀ stop, held.1 = .error stop → reportsOf held.2.log = []) ∧
    (∀ found, held.1 = .ok found →
      Nonempty (ListingReplies manager session given limit arrivals)) ∧
    ∀ replies : ListingReplies manager session given limit arrivals, ∃ found,
      held.1 = .ok found ∧ searches = replies.pages.length ∧
      reportsOf held.2.log = [listingReport replies.zone found.length
        (if UsesUp limit replies.pages then searches + 1 else searches)] := by
  intro limit held searches
  have limited : limitOf (filter.getD {}) = limit := limitOf_eq_toNat _
  have unreported := reportsOf_listPages manager now session filter given arrivals
  refine ⟨fun stop stopped => ?_, fun found returned => ?_, fun replies => ?_⟩
  · -- Only the pages can stop a listing, as the report always comes to its end.
    cases pages : (manager.listPages now session filter given).hold { arrivals } with
    | mk outcome middle =>
      simp only [held, Run.on_eq_hold] at stopped ⊢
      rw [listCertificates_eq] at stopped ⊢
      rw [pages] at unreported
      cases outcome with
      | error early => rwa [Run.hold_bind_error pages]
      | ok listed =>
        rw [Run.hold_bind_ok pages] at stopped
        cases stopped
  · -- What a listing returns has come from replies of the right form.
    exact replies_of_hold_listCertificates limited (Prod.ext returned rfl)
  · -- With such replies the pages are read to their end, and the report is logged behind them.
    obtain ⟨middle, pages, sent⟩ := hold_listPages_of_replies now limited replies
    have reported : held = (.ok (kept limit replies.pages), { middle with
        log := middle.log ++ [listingReport replies.zone (kept limit replies.pages).length
          (fullPages limit replies.pages + 1)] }) := by
      simp only [held, Run.on_eq_hold]
      rw [listCertificates_eq, Run.hold_bind_ok pages]
      rfl
    have searched : searches = replies.pages.length := by
      simp only [searches, reported, sent]
      exact replies.countP_calls _ now
    refine ⟨kept limit replies.pages, by rw [reported], searched, ?_⟩
    rw [pages] at unreported
    rw [reported, searched, ← fullPages_succ replies.listed]
    -- The report stands behind a log without reports.
    unfold reportsOf at unreported ⊢
    rw [List.filter_append, unreported]
    simp [listingReport]

/-- A single page that uses up a limit of fifty is searched for once, and reported as two. -/
theorem listCertificates_reports_usedUp :
    let session : Session := ⟨"key", { company := some ⟨"co-1", "Example"⟩ }⟩
    let manager : Manager := ⟨some "Payments", .ofInt 2, .ofInt 1, "host", .system⟩
    let now : Moment := ⟨2026, 1, 15, 12, 30, 45, 0, some 0⟩
    let arrivals : List Arrival := [⟨.zero, applicationReply⟩, ⟨.zero, recordsReply 50⟩]
    let held :=
      (manager.listCertificates now (some session) (some { limit := some 50 }) none).on arrivals
    ∃ found, held.1 = .ok found ∧ held.2.sent.countP (Call.Searches ·) = 1 ∧
      reportsOf held.2.log = [listingReport ⟨"Payments", ""⟩ found.length 2] := by
  intro session manager now arrivals held
  have application : applicationReply.Tells Application.check 200 { id := "app-1" } :=
    ⟨_, rfl, rfl, by decide +kernel⟩
  have page : (recordsReply 50).Tells SearchResult.check 200 ⟨0, List.replicate 50 {}⟩ :=
    ⟨_, rfl, rfl, by decide +kernel⟩
  -- The page is full, and nothing is left of the limit behind it.
  let replies : ListingReplies manager (some session) none 50 arrivals :=
    ⟨session, rfl, rfl, ⟨"Payments", ""⟩, by rfl, _, _, application, _, _, [], rfl,
      .cons page .nil, .full (by decide) .usedUp⟩
  obtain ⟨_, _, reports⟩ := listCertificates_reports manager now (some session)
    (some { limit := some 50 }) none arrivals
  obtain ⟨found, returned, searches, report⟩ := reports replies
  have usesUp : UsesUp 50 [⟨0, List.replicate 50 {}⟩] := by decide
  have report' : reportsOf held.2.log = [listingReport ⟨"Payments", ""⟩ found.length
      (if UsesUp 50 [⟨0, List.replicate 50 {}⟩] then held.2.sent.countP (Call.Searches ·) + 1
        else held.2.sent.countP (Call.Searches ·))] := report
  rw [if_pos usesUp, show held.2.sent.countP (Call.Searches ·) = 1 from searches] at report'
  exact ⟨found, returned, searches, report'⟩

end Manager

end Issuance
