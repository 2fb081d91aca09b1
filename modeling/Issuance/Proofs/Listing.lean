import Issuance.Lifecycle.Listing
import Issuance.Proofs.Client
import Issuance.Proofs.Json
import Issuance.Proofs.Manager
import Issuance.Proofs.RoundTrip

/-! A listing asks for page after page and collects records up to a limit: none lost, none twice. -/

namespace Issuance

/-- The call that looks for a page of certificates. -/
def Call.page (session : Session) (expression : Expression) (page : Nat) : Call :=
  .search session (Manager.pageSearch expression page)

/-- Searches for different pages are different calls. -/
theorem Call.page_injective {session : Session} {expression : Expression} {page other : Nat}
    (same : Call.page session expression page = .page session expression other) : page = other := by
  -- The number of the page stands in the body that is posted.
  have numbers : (page : Int) = other := by
    simpa [Call.page, Manager.pageSearch, search, posting, Search.payload, Payload.record, Paging.payload]
      using congrArg Call.body same
  omega

/-- A search is not a lookup. -/
theorem Call.page_ne_application {session : Session} {expression : Expression} {page : Nat}
    {name : String} : Call.page session expression page ≠ .application session name :=
  fun same => absurd (congrArg Call.method same) (by decide : ("POST" : String) ≠ "GET")

/-- A service with records behind an expression answers each page with those that belong on it. -/
def ServesPages (service : Call → Reply → Prop) (session : Session) (expression : Expression)
    (records : List CertificateSummary) : Prop :=
  ∀ page reply, service (.page session expression page) reply →
    ∃ result, reply.Tells SearchResult.check 200 result ∧
      result.certificates = (records.drop (50 * page)).take 50

namespace Manager

/-- A listing compares with texts alone. -/
theorem shallow_listingExpression (applicationId : String) (withExpired : Bool) (now : Moment) :
    (listingExpression applicationId withExpired now).Shallow := by
  refine Expression.shallow_of_texts fun operand condition => ?_
  unfold listingExpression at condition
  -- The second condition is there only if expired certificates are left out.
  cases withExpired with
  | false =>
    obtain rfl | rfl : _ ∨ _ := by simpa using condition
    · exact ⟨_, rfl⟩
    · exact ⟨_, rfl⟩
  | true =>
    obtain rfl : operand = _ := by simpa using condition
    exact ⟨_, rfl⟩

section Pages

variable {session : Session} {expression : Expression}

/-- What follows on the answer to a page: an end if it is not full, and the next page otherwise. -/
def listingAfter (session : Session) (expression : Expression) (pages limit page : Nat)
    (result : SearchResult) : Run (List CertificateInfo × Nat) := do
  let batch := (result.certificates.map CertificateSummary.info).take limit
  if batch.length < pageSize then return (batch, page)
  let (rest, last) ← listingFrom session expression pages (limit - pageSize) (page + 1)
  return (batch ++ rest, last)

/-- As long as the limit is not used up, the next thing is one search. -/
theorem listingFrom_succ {pages limit page : Nat} (left : limit ≠ 0) :
    listingFrom session expression (pages + 1) limit page =
      Client.search session (pageSearch expression page) >>=
        listingAfter session expression pages limit page := by
  unfold listingFrom listingPage
  -- The page's search and what follows on it are two parts of one step.
  simp only [if_neg left, bind_assoc, pure_bind]
  rfl

/-- What follows on the answer to a page takes nothing back, if the pages after it do not. -/
theorem extends_listingAfter {pages : Nat}
    (goesOn : ∀ limit page, (listingFrom session expression pages limit page).Extends)
    (limit page : Nat) (result : SearchResult) :
    (listingAfter session expression pages limit page result).Extends := by
  simp only [listingAfter]
  -- Either this was the last page, or the listing goes on with the next one.
  split
  · exact .pure _
  · exact (goesOn _ _).bind fun _ => .pure _

/-- The search for a page starts with its call. -/
theorem begins_page (shallow : expression.Shallow) (page : Nat) :
    (Client.search session (pageSearch expression page)).Begins
      (.page session expression page) :=
  .of_call fun dialogue => Client.hold_search session dialogue shallow

/-- Listing from a page on takes nothing back. -/
theorem extends_listingFrom (shallow : expression.Shallow) (pages limit page : Nat) :
    (listingFrom session expression pages limit page).Extends := by
  induction pages generalizing limit page with
  | zero => exact .pure _
  | succ pages ih =>
    -- With nothing left of the limit there is no search, and with something there is one first.
    by_cases left : limit = 0
    · unfold listingFrom
      rw [if_pos left]
      exact .pure _
    · rw [listingFrom_succ left]
      exact ((begins_page shallow page).bind (extends_listingAfter ih limit page)).toExtends

/-- With something left of the limit, listing from a page on starts with the search for it. -/
theorem begins_listingFrom (shallow : expression.Shallow) (pages page : Nat) {limit : Nat}
    (left : limit ≠ 0) :
    (listingFrom session expression (pages + 1) limit page).Begins
      (.page session expression page) := by
  rw [listingFrom_succ left]
  exact (begins_page shallow page).bind
    (extends_listingAfter (extends_listingFrom shallow pages) limit page)

/-- With a reply that tells a page, a listing goes on with what follows on that page. -/
theorem hold_listingFrom_told (shallow : expression.Shallow) {pages limit page : Nat}
    {dialogue : Dialogue} {arrival : Arrival} {rest : List Arrival} {result : SearchResult}
    (left : limit ≠ 0)
    (next : dialogue.arrivals = arrival :: rest)
    (told : arrival.reply.Tells SearchResult.check 200 result) :
    (listingFrom session expression (pages + 1) limit page).hold dialogue =
      (listingAfter session expression pages limit page result).hold
        (dialogue.called (.page session expression page)) := by
  have searched : (Client.search session (pageSearch expression page)).hold dialogue = _ :=
    Client.hold_search session dialogue shallow
  rw [(Dialogue.learns_decode_eq_ok _).mpr ⟨arrival, rest, next, told⟩] at searched
  rw [listingFrom_succ left]
  exact Run.hold_bind_ok searched

/-- A page of which fewer than fifty records are kept is the last one. -/
theorem listingAfter_short {pages limit page : Nat} {result : SearchResult}
    (short : min limit result.certificates.length < 50) :
    listingAfter session expression pages limit page result =
      pure ((result.certificates.take limit).map CertificateSummary.info, page) := by
  simp only [listingAfter, ← List.map_take]
  rw [if_pos]
  simpa [pageSize] using short

/-- A page of which fifty records or more are kept is followed by the next one. -/
theorem listingAfter_full {pages limit page : Nat} {result : SearchResult}
    (full : 50 ≤ min limit result.certificates.length) :
    listingAfter session expression pages limit page result =
      listingFrom session expression pages (limit - 50) (page + 1) >>= fun (rest, last) =>
        pure ((result.certificates.take limit).map CertificateSummary.info ++ rest, last) := by
  simp only [listingAfter, ← List.map_take]
  rw [if_neg]
  · rfl
  · simpa [pageSize] using full

/-- A listing ends with a page that is not full, or that uses up the limit without being full. -/
theorem listingAfter_of_short {pages limit page : Nat} {result : SearchResult}
    {records : List CertificateSummary} (answer : result.certificates = records.take 50)
    (short : limit < 50 ∨ records.length < 50) :
    listingAfter session expression pages limit page result =
      pure ((records.take limit).map CertificateSummary.info, page) := by
  have batch : result.certificates.take limit = records.take limit := by
    rw [answer, List.take_take]
    -- A limit beyond the page counts for nothing if there is no more than the page.
    by_cases few : limit < 50
    · rw [Nat.min_eq_left (Nat.le_of_lt few)]
    · rw [List.take_of_length_le (by omega), List.take_of_length_le (by omega)]
  rw [listingAfter_short, batch]
  -- Either reason for the end leaves fewer than a page.
  simp only [answer, List.length_take]
  omega

/-- A listing goes on behind a full page. -/
theorem listingAfter_of_full {pages limit page : Nat} {result : SearchResult}
    {records : List CertificateSummary} (answer : result.certificates = records.take 50)
    (wanted : 50 ≤ limit) (full : 50 ≤ records.length) :
    listingAfter session expression pages limit page result =
      listingFrom session expression pages (limit - 50) (page + 1) >>= fun (rest, last) =>
        pure ((records.take 50).map CertificateSummary.info ++ rest, last) := by
  have batch : result.certificates.take limit = records.take 50 := by
    rw [answer, List.take_take, Nat.min_eq_right wanted]
  rw [listingAfter_full, batch]
  -- A page with fifty records is not short.
  simp only [answer, List.length_take]
  omega

/-- A limit of a page or more takes that page, and what the rest of it takes behind the page. -/
theorem take_drop_page {records : List CertificateSummary} {limit : Nat} (wanted : 50 ≤ limit)
    (page : Nat) :
    (records.drop (50 * page)).take limit =
      (records.drop (50 * page)).take 50 ++
        (records.drop (50 * (page + 1))).take (limit - 50) := by
  have limits : limit = 50 + (limit - 50) := by omega
  rw [limits, List.take_add, List.drop_drop, Nat.mul_succ, Nat.add_sub_cancel_left]

/-- From a page on, a listing collects the records that are left, up to the limit that is left. -/
theorem hold_listingFrom (shallow : expression.Shallow) {service : Call → Reply → Prop}
    {records : List CertificateSummary} (serves : ServesPages service session expression records)
    {pages limit : Nat} (page : Nat)
    (dialogue : Dialogue) (enough : limit ≤ pages) (full : 50 * page ≤ records.length)
    (answered : Dialogue.AnsweredBy service dialogue
      ((listingFrom session expression pages limit page).hold dialogue).2) :
    ∃ last later, (listingFrom session expression pages limit page).hold dialogue =
        (.ok (((records.drop (50 * page)).take limit).map CertificateSummary.info, last), later) ∧
      later.sent = dialogue.sent ++
        (List.range' page (min ((limit + 49) / 50) ((records.length - 50 * page) / 50 + 1))).map
          (.page session expression) := by
  -- The limit shrinks by one page with each of them, and what is left starts at the page.
  induction pages generalizing limit page dialogue with
  | zero =>
    -- Without a page there is no limit left either.
    obtain rfl : limit = 0 := by omega
    exact ⟨page, dialogue, by simp [listingFrom], by simp⟩
  | succ pages ih =>
    by_cases left : limit = 0
    · -- Nothing is left to be listed, and nothing is asked for.
      subst left
      exact ⟨page, dialogue, by simp [listingFrom], by simp⟩
    · -- The search takes the next reply, which tells what belongs on the page.
      obtain ⟨arrival, rest, next, reply⟩ := answered.next (begins_listingFrom shallow pages page left)
      obtain ⟨result, told, answer⟩ := serves page arrival.reply reply
      rw [hold_listingFrom_told shallow left next told] at answered ⊢
      have after := answered.called (.page session expression page)
      have remaining : (records.drop (50 * page)).length = records.length - 50 * page := by simp
      by_cases short : limit < 50 ∨ (records.drop (50 * page)).length < 50
      · -- The last page: of the two counts of pages, one has come down to it.
        rw [listingAfter_of_short answer short]
        refine ⟨page, _, rfl, ?_⟩
        have one : min ((limit + 49) / 50) ((records.length - 50 * page) / 50 + 1) = 1 := by omega
        rw [one]
        simp [Call.page]
      · -- A full page: both counts of pages go down by one.
        have wanted : 50 ≤ limit := by omega
        have full : 50 ≤ (records.drop (50 * page)).length := by omega
        rw [listingAfter_of_full answer wanted full] at after ⊢
        obtain ⟨last, later, held, sent⟩ := ih (page + 1)
          (dialogue.called (.page session expression page)) (by omega) (by omega)
          (after.first fun _ => .pure _)
        have rounds : min ((limit + 49) / 50) ((records.length - 50 * page) / 50 + 1) =
            min ((limit - 50 + 49) / 50) ((records.length - 50 * (page + 1)) / 50 + 1) + 1 := by
          omega
        refine ⟨last, later, ?_, ?_⟩
        -- The batch of this page comes before what the others give, and its search before theirs.
        · rw [take_drop_page wanted, List.map_append]
          exact Run.hold_bind_ok held
        · rw [sent, rounds, List.range'_succ]
          simp

end Pages

/-- A limit that is given counts as it is, and none counts as a hundred million. -/
theorem limitOf_eq {filter : CertificateFilter} {limit : Nat}
    (limited : filter.limit.getD 100000000 = limit) : limitOf filter = limit := by
  unfold limitOf
  -- The limit that counts is a natural number, as the one that is given has to be.
  cases given : filter.limit with
  | none =>
    simp only [given, Option.getD_none] at limited
    simp only [Option.map_none, Option.getD_none, unboundedLimit]
    omega
  | some found =>
    simp only [given, Option.getD_some] at limited
    simp [limited]

/-- The end of a listing: what it has found is logged and told. -/
def reportListing (zone : Zone) (listed : List CertificateInfo × Nat) :
    Run (List CertificateInfo) := do
  Run.log .debug "Listed certificates" [("zone", .text zone.text), ("count", .int listed.1.length),
    ("pages", .int (listed.2 + 1))]
  return listed.1

/-- The listing of one application's certificates. -/
def listApplication (now : Moment) (session : Session) (filter : CertificateFilter) (zone : Zone)
    (application : Application) : Run (List CertificateInfo) :=
  listingFrom session (listingExpression application.id filter.withExpired now)
    (limitOf filter) (limitOf filter) 0 >>= reportListing zone

/-- The end of a listing adds to the log alone. -/
theorem hold_reportListing (zone : Zone) (listed : List CertificateInfo × Nat)
    (dialogue : Dialogue) :
    ∃ log, (reportListing zone listed).hold dialogue = (.ok listed.1, { dialogue with log }) :=
  ⟨_, rfl⟩

/-- The end of a listing sends nothing. -/
theorem extends_reportListing (zone : Zone) (listed : List CertificateInfo × Nat) :
    (reportListing zone listed).Extends := by
  -- It is a line in the log and a result.
  apply Run.Extends.bind (.log _ _ _)
  exact fun _ => .pure _

/-- With a company and a zone to work in, a listing looks up the zone's application first. -/
theorem hold_listCertificates {manager : Manager} {session : Session}
    {filter : Option CertificateFilter} {given : Option String} {zone : Zone}
    (company : session.account.company.isSome) (zoned : manager.zoneFor given = .ok zone)
    (now : Moment) (dialogue : Dialogue) :
    (manager.listCertificates now (some session) filter given).hold dialogue =
      (Client.application session zone.application >>=
        listApplication now session (filter.getD {}) zone).hold dialogue := by
  have zoning : (Run.ofOutcome (manager.zoneFor given)).hold dialogue = (.ok zone, dialogue) := by
    rw [zoned]
    rfl
  unfold listCertificates
  -- Session and zone are settled before anything is called.
  rw [Run.hold_bind_ok (hold_authenticated company "list certificates" dialogue)]
  exact Run.hold_bind_ok zoning

/--
A listing tells of the first records up to the limit, in their order, each by its own members.

It asks for just the pages that it takes to see them, or to see their end.
-/
theorem listCertificates_pages {manager : Manager} {session : Session}
    {filter : Option CertificateFilter} {given : Option String} {zone : Zone} {limit : Nat}
    (company : session.account.company.isSome) (zoned : manager.zoneFor given = .ok zone)
    (limited : (filter.getD {}).limit.getD 100000000 = limit) (now : Moment)
    (service : Call → Reply → Prop) (applicationId : String) (records : List CertificateSummary)
    (resolves : ∀ reply, service (.application session zone.application) reply →
      ∃ application, reply.Tells Application.check 200 application ∧ application.id = applicationId)
    (serves : ServesPages service session
      (listingExpression applicationId (filter.getD {}).withExpired now) records)
    (arrivals : List Arrival) :
    let held := (manager.listCertificates now (some session) filter given).on arrivals
    Dialogue.AnsweredBy service { arrivals } held.2 →
      held.1 = .ok ((records.take limit).map fun record => {
        id := record.id
        cn := record.subjectCns.headD ""
        dnsNames := ((record.alternativeNames.lookup "dNSName").getD none).getD []
        serial := record.serialNumber
        thumbprint := record.fingerprint
        validFrom := record.validityStart
        validTo := record.validityEnd }) ∧
      held.2.sent = .application session zone.application ::
        (List.range (min ((limit + 49) / 50) (records.length / 50 + 1))).map fun page =>
          .search session ⟨listingExpression applicationId (filter.getD {}).withExpired now,
            some ⟨page, 50⟩⟩ := by
  intro held answered
  simp only [held, Run.on_eq_hold] at answered ⊢
  rw [hold_listCertificates company zoned] at answered ⊢
  -- The application is looked up by the first call, and everything else is about it.
  have lookup : (Client.application session zone.application).Begins _ :=
    .of_call fun dialogue => Client.hold_application session dialogue zone.application
  obtain ⟨arrival, rest, next, reply⟩ := answered.next (lookup.bind fun application =>
    (extends_listingFrom (shallow_listingExpression _ _ _) _ _ _).bind (extends_reportListing zone))
  obtain ⟨application, told, rfl⟩ := resolves arrival.reply reply
  have looked := Client.hold_application session { arrivals } zone.application
  rw [Dialogue.learns_cons next, Reply.learned_decodeApplication_eq_ok.mpr told] at looked
  rw [Run.hold_bind_ok looked] at answered ⊢
  -- What is left behind the lookup is the listing from the first page, and its report.
  have pages := (answered.called (.application session zone.application)).first
    (extends_reportListing zone)
  obtain ⟨last, later, listed, sent⟩ :=
    hold_listingFrom (shallow_listingExpression _ _ _) serves 0 _ (Nat.le_refl _) (Nat.zero_le _) pages
  rw [limitOf_eq limited] at listed sent
  obtain ⟨log, reported⟩ := hold_reportListing zone
    (((records.drop (50 * 0)).take limit).map CertificateSummary.info, last) later
  unfold listApplication
  rw [limitOf_eq limited, Run.hold_bind_ok listed, reported]
  refine ⟨rfl, ?_⟩
  -- The report sends nothing, so that the lookup and the searches are all there is.
  rw [sent, Dialogue.called_sent, List.range_eq_range']
  rfl

end Manager

/-- A record that a service can print: dated to the minute of the calendar, each kind of names told once. -/
structure CertificateSummary.Printable (summary : CertificateSummary) : Prop where
  dated : summary.Dated
  toMinute : ∀ m ∈ summary.moments, m.ToMinute
  once : (summary.alternativeNames.map Prod.fst).Nodup

/-- What is printed of such a record is within the limits of a reader for four levels. -/
theorem CertificateSummary.Printable.legible {summary : CertificateSummary}
    (printable : summary.Printable) {width depth : Nat} :
    Json.Legible width (depth + 3) summary.payload := by
  have names : ∀ kind ∈ summary.alternativeNames,
      Json.Legible width (depth + 1) (namesPayload kind.2) := by
    intro kind _
    cases kind.2 with
    | none => exact .null
    | some told => exact .texts told
  have kinds : Json.Legible width (depth + 2) (.record (summary.alternativeNames.map
      fun kind => (kind.1, namesPayload kind.2))) := by
    refine .record ?_ fun member told => ?_
    · rw [List.map_map]
      exact printable.once
    · obtain ⟨kind, listed, rfl⟩ := List.mem_map.mp told
      exact names kind listed
  have dates (found : Option Moment) : ∀ value ∈ found.map fun m => Value.text m.wireText,
      Json.Legible width (depth + 2) value := by
    rintro _ told
    obtain ⟨m, _, rfl⟩ := Option.map_eq_some_iff.mp told
    exact .text _
  refine .payload (by simp) ?_
  -- The members are looked at in their order; a date that is missing is no member.
  simp only [List.forall_mem_cons, Option.mem_some_iff, forall_eq']
  exact ⟨.text _, .text _, .texts _, .text _, .text _, dates _, dates _, kinds, nofun⟩

/-- A service tells what it prints. -/
theorem SearchResult.tells_print {result : SearchResult}
    (printable : ∀ summary ∈ result.certificates, summary.Printable)
    (short : (toString result.count).length ≤ 4300) :
    (Reply.response ⟨200, "OK", Utf8.encode (Json.print result.payload)⟩).Tells
      SearchResult.check 200 result := by
  have listed : Json.Legible 4300 199 (.list (result.certificates.map CertificateSummary.payload)) := by
    refine .list fun item told => ?_
    obtain ⟨summary, listed, rfl⟩ := List.mem_map.mp told
    exact (printable summary listed).legible
  have legible : Json.Legible 4300 200 result.payload := by
    refine .payload (by simp) ?_
    simp only [List.forall_mem_cons, Option.mem_some_iff, forall_eq']
    exact ⟨.int _ short, listed, nofun⟩
  have minutes : ∀ m ∈ result.moments, m.ToMinute := by
    intro m told
    obtain ⟨summary, listed, told⟩ := List.mem_flatMap.mp told
    exact (printable summary listed).toMinute m told
  refine ⟨_, rfl, rfl, ?_⟩
  rw [readBody, Json.read?_print legible]
  exact (check_payload fun summary listed => (printable summary listed).dated).mpr minutes

namespace Manager

/-- What a service tells of its one application. -/
def applicationReply : Reply :=
  .response ⟨200, "OK", Utf8.encode "\x7b\"id\":\"app-1\"\x7d"⟩

/-- The page of some records that a service prints. -/
def pageReply (records : List CertificateSummary) (page : Nat) : Reply :=
  .response ⟨200, "OK",
    Utf8.encode (Json.print (SearchResult.payload ⟨0, (records.drop (50 * page)).take 50⟩))⟩

/-- A service with one application that has some records. -/
inductive OneApplication (session : Session) (expression : Expression)
    (records : List CertificateSummary) : Call → Reply → Prop
  | application : OneApplication session expression records
      (.application session "Payments") applicationReply
  | page (page : Nat) : OneApplication session expression records
      (.page session expression page) (pageReply records page)

theorem applicationReply_tells : applicationReply.Tells Application.check 200 { id := "app-1" } :=
  ⟨_, rfl, rfl, by decide +kernel⟩

theorem pageReply_tells {records : List CertificateSummary}
    (printable : ∀ summary ∈ records, summary.Printable) (page : Nat) :
    (pageReply records page).Tells SearchResult.check 200
      ⟨0, (records.drop (50 * page)).take 50⟩ :=
  SearchResult.tells_print
    (fun summary listed => printable summary (List.mem_of_mem_drop (List.mem_of_mem_take listed)))
    (by decide : (toString (0 : Int)).length ≤ 4300)

/-- Whatever its records are, such a service answers each page with those that belong on it. -/
theorem OneApplication.servesPages {session : Session} {expression : Expression}
    {records : List CertificateSummary} (printable : ∀ summary ∈ records, summary.Printable) :
    ServesPages (OneApplication session expression records) session expression records := by
  intro page reply given
  generalize asked : Call.page session expression page = call at given
  cases given with
  | application => exact absurd asked Call.page_ne_application
  | page other =>
    cases Call.page_injective asked
    exact ⟨_, pageReply_tells printable page, rfl⟩

/-- Only the lookup is answered with an application. -/
theorem OneApplication.resolves {session : Session} {expression : Expression}
    {records : List CertificateSummary} {reply : Reply}
    (given : OneApplication session expression records (.application session "Payments") reply) :
    ∃ application, reply.Tells Application.check 200 application ∧ application.id = "app-1" := by
  generalize asked : Call.application session "Payments" = call at given
  cases given with
  | application => exact ⟨_, applicationReply_tells, rfl⟩
  | page page => exact absurd asked.symm Call.page_ne_application

/-- A limit within the second page is answered with two pages, if the first of them is full. -/
theorem answered_of_two_pages {manager : Manager} {session : Session} {given : Option String}
    (company : session.account.company.isSome) (zoned : manager.zoneFor given = .ok ⟨"Payments", ""⟩)
    (now : Moment) {records : List CertificateSummary}
    (printable : ∀ summary ∈ records, summary.Printable) (full : 50 ≤ records.length) {limit : Nat}
    (wanted : 50 < limit) (cut : limit < 100) :
    let arrivals : List Arrival := [⟨.zero, applicationReply⟩, ⟨.zero, pageReply records 0⟩,
      ⟨.zero, pageReply records 1⟩]
    Dialogue.AnsweredBy (OneApplication session (listingExpression "app-1" false now) records)
      { arrivals }
      ((manager.listCertificates now (some session) (some { limit := some limit }) given).on
        arrivals).2 := by
  intro arrivals
  let expression := listingExpression "app-1" false now
  have shallow : expression.Shallow := shallow_listingExpression _ _ _
  have looked := Client.hold_application session { arrivals } "Payments"
  rw [Dialogue.learns_cons rfl,
    Reply.learned_decodeApplication_eq_ok.mpr applicationReply_tells] at looked
  -- The calls in their order: the lookup, a full page, and the page that uses the limit up.
  let behind := Dialogue.called { arrivals } (.application session "Payments")
  let last := behind.called (.page session expression 0)
  have toFirst : behind.arrivals = arrivals.tail := Dialogue.called_arrivals ..
  have toSecond : last.arrivals = arrivals.tail.tail := by rw [Dialogue.called_arrivals, toFirst]
  obtain ⟨pages, rfl⟩ := Nat.exists_eq_add_of_le' (by omega : 2 ≤ limit)
  obtain ⟨rest, second⟩ : ∃ rest, (listingFrom session expression (pages + 1) (pages + 2 - 50) 1).hold
      last = (.ok rest, last.called (.page session expression 1)) := by
    rw [hold_listingFrom_told shallow (by omega) toSecond (pageReply_tells printable 1),
      listingAfter_of_short rfl (.inl (by omega))]
    exact ⟨_, Run.hold_pure ..⟩
  obtain ⟨all, first⟩ : ∃ all, (listingFrom session expression (pages + 2) (pages + 2) 0).hold
      behind = (.ok all, last.called (.page session expression 1)) := by
    rw [hold_listingFrom_told shallow (by omega) toFirst (pageReply_tells printable 0),
      listingAfter_of_full rfl (by omega) full, Run.hold_bind_ok second]
    exact ⟨_, Run.hold_pure ..⟩
  have limited : limitOf { limit := some ((pages + 2 : Nat) : Int) } = pages + 2 := limitOf_eq rfl
  have sent : ((manager.listCertificates now (some session)
      (some { limit := some ((pages + 2 : Nat) : Int) }) given).on arrivals).2.sent =
        [.application session "Payments", .page session expression 0, .page session expression 1] := by
    rw [Run.on_eq_hold, hold_listCertificates company zoned, Run.hold_bind_ok looked, Option.getD_some,
      listApplication, limited, Run.hold_bind_ok first]
    obtain ⟨log, reported⟩ := hold_reportListing ⟨"Payments", ""⟩ all
      (last.called (.page session expression 1))
    rw [reported]
    simp only [last, behind, Dialogue.called_sent]
    rfl
  intro position call found
  rw [sent] at found
  match position, found with
  | 0, rfl => exact ⟨_, rfl, .application⟩
  | 1, rfl => exact ⟨_, rfl, .page 0⟩
  | 2, rfl => exact ⟨_, rfl, .page 1⟩

/-- The record of a number. -/
def numbered (n : Nat) : CertificateSummary where
  id := "cert-" ++ toString n
  requestId := "req-" ++ toString n
  subjectCns := ["svc-" ++ toString n, "www-" ++ toString n]
  fingerprint := "FP" ++ toString n
  serialNumber := "SN" ++ toString n
  validityStart := some ⟨2000 + n, 1, 15, 12, 30, 45, 0, some 0⟩
  validityEnd := some ⟨2001 + n, 1, 15, 12, 30, 45, 0, some 0⟩
  alternativeNames := [("iPAddress", none), ("dNSName", some ["svc-" ++ toString n ++ ".example"])]

theorem numbered_printable {n : Nat} (small : n < 120) : (numbered n).Printable where
  dated := by
    have each : ∀ n < 120, ∀ m ∈ (numbered n).moments, m.Valid := by decide +kernel
    exact each n small
  toMinute := by
    have each : ∀ n < 120, ∀ m ∈ (numbered n).moments, m.ToMinute := by decide +kernel
    exact each n small
  once := by simp [numbered]

/-- A limit of seventy takes the first page of a hundred and twenty records, and cuts the second. -/
theorem listCertificates_cuts_second_page :
    let session : Session := ⟨"key", { company := some ⟨"co-1", "Example"⟩ }⟩
    let manager : Manager := ⟨some "Payments", .ofInt 2, .ofInt 1, "host", .system⟩
    let now : Moment := ⟨2026, 1, 15, 12, 30, 45, 0, some 0⟩
    let expression := listingExpression "app-1" false now
    let records := (List.range 120).map numbered
    let arrivals : List Arrival := [⟨.zero, applicationReply⟩, ⟨.zero, pageReply records 0⟩,
      ⟨.zero, pageReply records 1⟩]
    let held :=
      (manager.listCertificates now (some session) (some { limit := some 70 }) none).on arrivals
    held.1 = .ok ((List.range 70).map fun n => {
        id := "cert-" ++ toString n
        cn := "svc-" ++ toString n
        dnsNames := ["svc-" ++ toString n ++ ".example"]
        serial := "SN" ++ toString n
        thumbprint := "FP" ++ toString n
        validFrom := some ⟨2000 + n, 1, 15, 12, 30, 45, 0, some 0⟩
        validTo := some ⟨2001 + n, 1, 15, 12, 30, 45, 0, some 0⟩ }) ∧
      held.2.sent = [.application session "Payments", .search session ⟨expression, some ⟨0, 50⟩⟩,
        .search session ⟨expression, some ⟨1, 50⟩⟩] := by
  intro session manager now expression records arrivals held
  have printable : ∀ summary ∈ records, summary.Printable := by
    intro summary listed
    obtain ⟨n, small, rfl⟩ := List.mem_map.mp listed
    exact numbered_printable (List.mem_range.mp small)
  have zoned : manager.zoneFor none = .ok ⟨"Payments", ""⟩ := by rfl
  have limited : ((some ({ limit := some 70 } : CertificateFilter)).getD {}).limit.getD 100000000 =
      (70 : Nat) := rfl
  have many : 50 ≤ records.length := by
    simp only [records, List.length_map, List.length_range]
    decide
  have answered := answered_of_two_pages (rfl : session.account.company.isSome = true) zoned now
    printable many (by decide : 50 < 70) (by decide)
  obtain ⟨found, sent⟩ := listCertificates_pages (by rfl) zoned limited now
    (OneApplication session expression records) "app-1" records
    (fun _ given => OneApplication.resolves given) (OneApplication.servesPages printable) arrivals
    answered
  refine ⟨found.trans ?_, sent.trans ?_⟩
  · simp only [records, ← List.map_take, List.map_map, List.take_range]
    rfl
  · simp only [records, List.length_map, List.length_range]
    rfl

end Manager

end Issuance
