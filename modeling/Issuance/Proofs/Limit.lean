import Mathlib.Algebra.GroupWithZero.Nat
import Mathlib.Data.List.Forall2
import Issuance.Proofs.Listing

/-! What a listing keeps of pages of any length, and when the limit of the caller holds. -/

namespace Issuance

/--
The pages that a listing takes up to a limit.

Each page but the last is full, even when it is cut to what is left of the limit.
-/
inductive ListedPages : Nat → List SearchResult → Prop
  /-- With nothing left of the limit there is no page to take. -/
  | usedUp : ListedPages 0 []
  /-- A page that is not full is the last one. -/
  | short {limit : Nat} {page : SearchResult} (left : limit ≠ 0)
      (short : min limit page.certificates.length < 50) : ListedPages limit [page]
  /-- A full page counts for fifty records of the limit. -/
  | full {limit : Nat} {page : SearchResult} {others : List SearchResult}
      (full : 50 ≤ min limit page.certificates.length) (rest : ListedPages (limit - 50) others) :
      ListedPages limit (page :: others)

namespace Manager

/-- What is kept of some pages: the first records of each, up to what is left of the limit. -/
def kept (limit : Nat) (pages : List SearchResult) : List CertificateInfo :=
  (pages.mapIdx fun place page =>
    (page.certificates.take (limit - 50 * place)).map CertificateSummary.info).flatten

/-- How many of the records that are kept count: those up to the fiftieth of their page. -/
def counted (limit : Nat) (pages : List SearchResult) : Nat :=
  (pages.mapIdx fun place page => min 50 (min (limit - 50 * place) page.certificates.length)).sum

/-- How many of the records that are kept do not count: those beyond the fiftieth of their page. -/
def surplus (limit : Nat) (pages : List SearchResult) : Nat :=
  (pages.mapIdx fun place page => min (limit - 50 * place) page.certificates.length - 50).sum

/-- How many of the pages are full, even when they are cut to what is left of the limit. -/
def fullPages (limit : Nat) (pages : List SearchResult) : Nat :=
  (pages.mapIdx fun place page =>
    if 50 ≤ min (limit - 50 * place) page.certificates.length then 1 else 0).sum

/-- Behind a first page, what is left of the limit has shrunk by fifty. -/
private theorem left_succ (limit place : Nat) :
    limit - 50 * (place + 1) = limit - 50 - 50 * place := by
  omega

theorem kept_cons (limit : Nat) (page : SearchResult) (others : List SearchResult) :
    kept limit (page :: others) =
      (page.certificates.take limit).map CertificateSummary.info ++ kept (limit - 50) others := by
  simp [kept, List.mapIdx_cons, left_succ]

theorem counted_cons (limit : Nat) (page : SearchResult) (others : List SearchResult) :
    counted limit (page :: others) =
      min 50 (min limit page.certificates.length) + counted (limit - 50) others := by
  simp [counted, List.mapIdx_cons, left_succ]

theorem surplus_cons (limit : Nat) (page : SearchResult) (others : List SearchResult) :
    surplus limit (page :: others) =
      (min limit page.certificates.length - 50) + surplus (limit - 50) others := by
  simp [surplus, List.mapIdx_cons, left_succ]

theorem fullPages_cons (limit : Nat) (page : SearchResult) (others : List SearchResult) :
    fullPages limit (page :: others) =
      (if 50 ≤ min limit page.certificates.length then 1 else 0) + fullPages (limit - 50) others := by
  simp [fullPages, List.mapIdx_cons, left_succ]

/-- All records that are kept either count or do not. -/
theorem length_kept (limit : Nat) (pages : List SearchResult) :
    (kept limit pages).length = counted limit pages + surplus limit pages := by
  induction pages generalizing limit with
  | nil => rfl
  | cons page others ih =>
    rw [kept_cons, counted_cons, surplus_cons, List.length_append, ih, List.length_map,
      List.length_take]
    -- The records of one page are split at the fiftieth.
    omega

/-- What counts stays within the limit. -/
theorem counted_le_limit {limit : Nat} {pages : List SearchResult}
    (listed : ListedPages limit pages) : counted limit pages ≤ limit := by
  induction listed with
  | usedUp => exact Nat.le_refl 0
  | short left short =>
    -- The last page is cut to the limit as it stands.
    rw [counted_cons]
    simp only [counted, List.mapIdx_nil, List.sum_nil]
    omega
  | full full rest ih =>
    -- A full page counts for fifty, which is what the limit shrinks by.
    rw [counted_cons]
    omega

/-- Pages that come no fuller than asked for have no surplus, and one cut to a page has none. -/
theorem surplus_eq_zero {limit : Nat} {pages : List SearchResult}
    (fits : limit ≤ 50 ∨ ∀ page ∈ pages, page.certificates.length ≤ 50) :
    surplus limit pages = 0 := by
  induction pages generalizing limit with
  | nil => rfl
  | cons page others ih =>
    -- A limit of a page or less leaves nothing for the pages behind the first.
    have rest : limit - 50 ≤ 50 ∨ ∀ page ∈ others, page.certificates.length ≤ 50 :=
      fits.imp (by omega) fun fit other member => fit other (List.mem_cons_of_mem page member)
    have first : limit ≤ 50 ∨ page.certificates.length ≤ 50 :=
      fits.imp_right fun fit => fit page List.mem_cons_self
    rw [surplus_cons, ih rest]
    omega

/-- A first page that uses up the limit by itself, and yet is not the last, breaks the limit. -/
theorem limit_lt_length_kept {limit : Nat} {first second : SearchResult}
    {others : List SearchResult} (listed : ListedPages limit (first :: second :: others))
    (enough : limit ≤ first.certificates.length) (more : second.certificates ≠ []) :
    limit < (kept limit (first :: second :: others)).length := by
  -- There is a second page only because the first counts for no more than fifty.
  have left : limit - 50 ≠ 0 := by
    cases listed with
    | full full rest =>
      intro none
      rw [none] at rest
      cases rest with
      | full full _ => omega
      | short left _ => exact left rfl
  have some := List.length_pos_iff.mpr more
  rw [kept_cons, kept_cons, List.length_append, List.length_append, List.length_map,
    List.length_take, List.length_map, List.length_take]
  omega

section Pages

variable {session : Session} {expression : Expression}

/-- With nothing left of the limit, nothing is asked for. -/
theorem listingFrom_usedUp (pages page : Nat) :
    listingFrom session expression pages 0 page = pure ([], page) := by
  cases pages <;> rfl

/-- Replies that tell the pages of a listing make it return what it keeps of them. -/
theorem hold_listingFrom_of_listed (session : Session) (shallow : expression.Shallow) {limit : Nat}
    {pages : List SearchResult} (listed : ListedPages limit pages) :
    ∀ (bound page : Nat) (dialogue : Dialogue) (taken rest : List Arrival), limit ≤ bound →
      dialogue.arrivals = taken ++ rest →
      List.Forall₂ (fun arrival page => arrival.reply.Tells SearchResult.check 200 page)
        taken pages →
      ∃ later, (listingFrom session expression bound limit page).hold dialogue =
          (.ok (kept limit pages, page + fullPages limit pages), later) ∧
        later.sent =
          dialogue.sent ++ (List.range' page pages.length).map (.page session expression) := by
  -- Each page takes one search and one reply, and leaves the claim for the pages behind it.
  induction listed with
  | usedUp =>
    intro bound page dialogue taken rest _ _ _
    rw [listingFrom_usedUp]
    exact ⟨dialogue, rfl, by simp⟩
  | @short limit result left short =>
    intro bound page dialogue taken rest enough arrivals told
    obtain ⟨bound, rfl⟩ := Nat.exists_eq_succ_of_ne_zero (by omega : bound ≠ 0)
    obtain ⟨arrival, _, tells, none, rfl⟩ := List.forall₂_cons_right_iff.mp told
    rw [hold_listingFrom_told shallow left arrivals tells, listingAfter_short short]
    -- The page is all there is, and it is not full.
    have only : kept limit [result] =
        (result.certificates.take limit).map CertificateSummary.info := by
      rw [kept_cons, kept, List.mapIdx_nil, List.flatten_nil, List.append_nil]
    have noneFull : fullPages limit [result] = 0 := by
      rw [fullPages_cons, if_neg (by omega)]
      rfl
    rw [only, noneFull]
    exact ⟨_, rfl, by simp [Call.page]⟩
  | @full limit result others full listed ih =>
    intro bound page dialogue taken rest enough arrivals told
    have left : limit ≠ 0 := by omega
    obtain ⟨bound, rfl⟩ := Nat.exists_eq_succ_of_ne_zero (by omega : bound ≠ 0)
    obtain ⟨arrival, taken, tells, others, rfl⟩ := List.forall₂_cons_right_iff.mp told
    rw [hold_listingFrom_told shallow left arrivals tells, listingAfter_full full]
    -- The other pages are listed from where the search for this one has led.
    have next : (dialogue.called (.page session expression page)).arrivals = taken ++ rest := by
      rw [Dialogue.called_arrivals, arrivals]
      rfl
    obtain ⟨later, held, sent⟩ :=
      ih bound (page + 1) (dialogue.called (.page session expression page)) taken rest
        (by omega) next others
    refine ⟨later, ?_, ?_⟩
    · rw [kept_cons, fullPages_cons, if_pos full, ← Nat.add_assoc]
      exact Run.hold_bind_ok held
    · rw [sent, List.length_cons, List.range'_succ]
      simp

/-- A listing that returns has been told all its pages. -/
theorem listed_of_hold_listingFrom (shallow : expression.Shallow) {bound limit page : Nat}
    {dialogue later : Dialogue} {listing : List CertificateInfo × Nat} (enough : limit ≤ bound)
    (held : (listingFrom session expression bound limit page).hold dialogue =
      (.ok listing, later)) :
    ∃ taken rest pages, dialogue.arrivals = taken ++ rest ∧
      List.Forall₂ (fun arrival page => arrival.reply.Tells SearchResult.check 200 page)
        taken pages ∧
      ListedPages limit pages := by
  induction bound generalizing limit page dialogue later listing with
  | zero =>
    obtain rfl : limit = 0 := by omega
    exact ⟨[], dialogue.arrivals, [], rfl, .nil, .usedUp⟩
  | succ bound ih =>
    by_cases left : limit = 0
    · subst left
      exact ⟨[], dialogue.arrivals, [], rfl, .nil, .usedUp⟩
    · rw [listingFrom_succ left] at held
      obtain ⟨result, middle, search, after⟩ := Run.hold_bind_eq_ok held
      have called : (Client.search session (pageSearch expression page)).hold dialogue = _ :=
        Client.hold_search session dialogue shallow
      rw [called, Prod.mk.injEq] at search
      obtain ⟨learned, rfl⟩ := search
      obtain ⟨arrival, rest, arrivals, tells⟩ := (Dialogue.learns_decode_eq_ok _).mp learned
      by_cases short : min limit result.certificates.length < 50
      · -- The page that was told is the last.
        exact ⟨[arrival], rest, [result], arrivals, .cons tells .nil, .short left short⟩
      · -- The page that was told is followed by those of the listing behind it.
        have full : 50 ≤ min limit result.certificates.length := by omega
        rw [listingAfter_full full] at after
        obtain ⟨others, _, held, _⟩ := Run.hold_bind_eq_ok after
        obtain ⟨taken, rest, pages, next, told, listed⟩ := ih (by omega) held
        rw [Dialogue.called_arrivals, arrivals, List.tail_cons] at next
        exact ⟨arrival :: taken, rest, result :: pages, by rw [arrivals, next]; rfl,
          .cons tells told, .full full listed⟩

end Pages

end Manager

/-- What a listing has been told when it returns, as its replies tell it. -/
structure ListingReplies (manager : Manager) (session : Option Session) (given : Option String)
    (limit : Nat) (arrivals : List Arrival) where
  account : Session
  present : session = some account
  company : account.account.company.isSome
  zone : Zone
  zoned : manager.zoneFor given = .ok zone
  /-- The reply to the lookup of the zone's application. -/
  lookup : Arrival
  application : Application
  resolved : lookup.reply.Tells Application.check 200 application
  /-- The replies to the searches, each with the page that it tells, and the replies after those. -/
  taken : List Arrival
  pages : List SearchResult
  rest : List Arrival
  replies : arrivals = lookup :: (taken ++ rest)
  told : List.Forall₂ (fun arrival page => arrival.reply.Tells SearchResult.check 200 page)
    taken pages
  listed : ListedPages limit pages

/-- The calls of a listing that returns: a lookup of the application, and a search for each page. -/
def ListingReplies.calls {manager : Manager} {session : Option Session} {given : Option String}
    {limit : Nat} {arrivals : List Arrival}
    (replies : ListingReplies manager session given limit arrivals) (withExpired : Bool)
    (now : Moment) : List Call :=
  .application replies.account replies.zone.application ::
    (List.range replies.pages.length).map (.page replies.account
      (Manager.listingExpression replies.application.id withExpired now))

namespace Manager

/-- The limit that counts is the one that is given, or a hundred million. -/
theorem limitOf_eq_toNat (filter : CertificateFilter) :
    limitOf filter = (filter.limit.getD 100000000).toNat := by
  unfold limitOf
  cases filter.limit <;> rfl

section Listing

variable {manager : Manager} {session : Option Session} {filter : Option CertificateFilter}
  {given : Option String} {arrivals : List Arrival}

/-- All of a listing but its report: the zone, what is listed in it, and the last page looked for. -/
def listPages (manager : Manager) (now : Moment) (session : Option Session)
    (filter : Option CertificateFilter) (given : Option String) :
    Run (Zone × List CertificateInfo × Nat) := do
  let session ← Run.ofOutcome (authenticated session "list certificates")
  let zone ← Run.ofOutcome (manager.zoneFor given)
  let application ← Client.application session zone.application
  let listed ← listingFrom session
    (listingExpression application.id (filter.getD {}).withExpired now)
    (limitOf (filter.getD {})) (limitOf (filter.getD {})) 0
  return (zone, listed)

/-- A listing ends with its report. -/
theorem listCertificates_eq (manager : Manager) (now : Moment) (session : Option Session)
    (filter : Option CertificateFilter) (given : Option String) :
    manager.listCertificates now session filter given =
      manager.listPages now session filter given >>= fun (zone, listed) =>
        reportListing zone listed := by
  unfold listCertificates listPages
  simp only [bind_assoc, pure_bind]
  rfl

/-- A listing with the replies for it has all it keeps of the pages before it reports. -/
theorem hold_listPages_of_replies (now : Moment) {limit : Nat}
    (limited : limitOf (filter.getD {}) = limit)
    (replies : ListingReplies manager session given limit arrivals) :
    ∃ later, (manager.listPages now session filter given).hold { arrivals } =
        (.ok (replies.zone, kept limit replies.pages, fullPages limit replies.pages), later) ∧
      later.sent = replies.calls (filter.getD {}).withExpired now := by
  obtain ⟨account, rfl, company, zone, zoned, lookup, application, resolved, taken, pages, rest,
    rfl, told, listed⟩ := replies
  simp only [ListingReplies.calls]
  have looked := Client.hold_application account { arrivals := lookup :: (taken ++ rest) }
    zone.application
  rw [Dialogue.learns_cons rfl, Reply.learned_decodeApplication_eq_ok.mpr resolved] at looked
  -- The pages are listed from where the lookup has led.
  have next := Dialogue.called_arrivals { arrivals := lookup :: (taken ++ rest) }
    (.application account zone.application)
  obtain ⟨later, pagesHeld, sent⟩ := hold_listingFrom_of_listed account
    (shallow_listingExpression application.id (filter.getD {}).withExpired now) listed limit 0 _
    taken rest (Nat.le_refl limit) next told
  rw [Nat.zero_add] at pagesHeld
  unfold listPages
  -- Session and zone are settled before anything is called.
  rw [Run.hold_bind_ok (hold_authenticated company "list certificates" _),
    Run.hold_bind_ok (Run.hold_ofOutcome_eq_ok.mpr ⟨zoned, rfl⟩), Run.hold_bind_ok looked, limited,
    Run.hold_bind_ok pagesHeld]
  refine ⟨later, rfl, ?_⟩
  rw [sent, Dialogue.called_sent, List.range_eq_range']
  rfl

/-- A listing with the replies for it returns what it keeps of the pages. -/
theorem hold_listCertificates_of_replies (now : Moment) {limit : Nat}
    (limited : limitOf (filter.getD {}) = limit)
    (replies : ListingReplies manager session given limit arrivals) :
    ∃ later, (manager.listCertificates now session filter given).hold { arrivals } =
        (.ok (kept limit replies.pages), later) ∧
      later.sent = replies.calls (filter.getD {}).withExpired now := by
  obtain ⟨middle, pagesHeld, sent⟩ := hold_listPages_of_replies now limited replies
  obtain ⟨log, reported⟩ := hold_reportListing replies.zone
    (kept limit replies.pages, fullPages limit replies.pages) middle
  rw [listCertificates_eq, Run.hold_bind_ok pagesHeld, reported]
  -- The report sends nothing, so that the lookup and the searches are all there is.
  exact ⟨_, rfl, sent⟩

/-- A listing that returns has been told all that it takes to return. -/
theorem replies_of_hold_listCertificates {now : Moment} {limit : Nat} {later : Dialogue}
    {found : List CertificateInfo} (limited : limitOf (filter.getD {}) = limit)
    (held : (manager.listCertificates now session filter given).hold { arrivals } =
      (.ok found, later)) :
    Nonempty (ListingReplies manager session given limit arrivals) := by
  -- Each part of the listing has come through: session, zone, application and pages.
  obtain ⟨account, _, authentication, held⟩ := Run.hold_bind_eq_ok held
  obtain ⟨authentic, rfl⟩ := Run.hold_ofOutcome_eq_ok.mp authentication
  obtain ⟨present, company⟩ := authenticated_eq_ok.mp authentic
  obtain ⟨zone, _, zoning, held⟩ := Run.hold_bind_eq_ok held
  obtain ⟨zoned, rfl⟩ := Run.hold_ofOutcome_eq_ok.mp zoning
  obtain ⟨application, _, looked, held⟩ := Run.hold_bind_eq_ok held
  rw [Client.hold_application, Prod.mk.injEq] at looked
  obtain ⟨learned, rfl⟩ := looked
  obtain ⟨listing, _, pagesHeld, _⟩ := Run.hold_bind_eq_ok held
  rw [limited] at pagesHeld
  obtain ⟨taken, rest, pages, next, told, listed⟩ :=
    listed_of_hold_listingFrom (shallow_listingExpression _ _ _) (Nat.le_refl limit) pagesHeld
  -- The application was told by the first reply, and the pages by those behind it.
  rw [Dialogue.called_arrivals] at next
  cases arrivals with
  | nil => cases learned
  | cons lookup others =>
    rw [Dialogue.learns_cons rfl, Reply.learned_decodeApplication_eq_ok] at learned
    exact ⟨⟨account, present, company, zone, zoned, lookup, application, learned, taken, pages,
      rest, congrArg (lookup :: ·) next, told, listed⟩⟩

end Listing

/--
A listing returns the first records of the pages it is told, cut to what is left of the limit.

What it counts of them is within the limit, but a page counts for no more than fifty records.
The limit holds if no page is fuller than asked for, and breaks if pages bring a surplus instead.
-/
theorem listCertificates_keeps_prefixes (manager : Manager) (now : Moment)
    (session : Option Session) (filter : Option CertificateFilter) (given : Option String)
    (arrivals : List Arrival) :
    let limit := ((filter.getD {}).limit.getD 100000000).toNat
    let held := (manager.listCertificates now session filter given).on arrivals
    (∀ found, held.1 = .ok found ↔
      ∃ replies : ListingReplies manager session given limit arrivals,
        found = kept limit replies.pages) ∧
    ∀ replies : ListingReplies manager session given limit arrivals,
      held.2.sent = replies.calls (filter.getD {}).withExpired now ∧
      (kept limit replies.pages).length =
        counted limit replies.pages + surplus limit replies.pages ∧
      counted limit replies.pages ≤ limit ∧
      ((limit ≤ 50 ∨ ∀ page ∈ replies.pages, page.certificates.length ≤ 50) →
        (kept limit replies.pages).length ≤ limit) ∧
      ∀ first second others, replies.pages = first :: second :: others →
        limit ≤ first.certificates.length → second.certificates ≠ [] →
          limit < (kept limit replies.pages).length := by
  intro limit held
  have limited : limitOf (filter.getD {}) = limit := limitOf_eq_toNat _
  refine ⟨fun found => ⟨fun returned => ?_, ?_⟩, fun replies => ?_⟩
  · -- A listing that returns has its replies, and they decide what it returns.
    obtain ⟨replies⟩ := replies_of_hold_listCertificates limited (Prod.ext returned rfl)
    obtain ⟨later, listed, _⟩ := hold_listCertificates_of_replies now limited replies
    have outcome : held.1 = .ok (kept limit replies.pages) := congrArg Prod.fst listed
    exact ⟨replies, Except.ok.inj (returned.symm.trans outcome)⟩
  · rintro ⟨replies, rfl⟩
    obtain ⟨later, listed, _⟩ := hold_listCertificates_of_replies now limited replies
    exact congrArg Prod.fst listed
  · obtain ⟨later, listed, sent⟩ := hold_listCertificates_of_replies now limited replies
    have counts := counted_le_limit replies.listed
    refine ⟨(congrArg (·.2.sent) listed).trans sent, length_kept limit replies.pages, counts,
      fun fits => ?_, fun first second others shape enough more => ?_⟩
    · -- Without a surplus, all that is kept counts.
      rw [length_kept, surplus_eq_zero fits]
      exact counts
    · have twoPages := replies.listed
      rw [shape] at twoPages ⊢
      exact limit_lt_length_kept twoPages enough more

/-- A reply to a search that tells of so many certificates. -/
def recordsReply (count : Nat) : Reply := .response ⟨200, "OK", Utf8.encode
  ("\x7b\"certificates\":[" ++ String.intercalate "," (List.replicate count "\x7b\x7d") ++ "]\x7d")⟩

/-- A limit of fifty-one is broken by a first page of fifty-one records and a second page of one. -/
theorem listCertificates_exceeds_limit :
    let session : Session := ⟨"key", { company := some ⟨"co-1", "Example"⟩ }⟩
    let manager : Manager := ⟨some "Payments", .ofInt 2, .ofInt 1, "host", .system⟩
    let now : Moment := ⟨2026, 1, 15, 12, 30, 45, 0, some 0⟩
    let arrivals : List Arrival :=
      [⟨.zero, applicationReply⟩, ⟨.zero, recordsReply 51⟩, ⟨.zero, recordsReply 1⟩]
    let held :=
      (manager.listCertificates now (some session) (some { limit := some 51 }) none).on arrivals
    ∃ found, held.1 = .ok found ∧ 51 < found.length := by
  intro session manager now arrivals held
  have application : applicationReply.Tells Application.check 200 { id := "app-1" } :=
    ⟨_, rfl, rfl, by decide +kernel⟩
  have first : (recordsReply 51).Tells SearchResult.check 200 ⟨0, List.replicate 51 {}⟩ :=
    ⟨_, rfl, rfl, by decide +kernel⟩
  have second : (recordsReply 1).Tells SearchResult.check 200 ⟨0, [{}]⟩ :=
    ⟨_, rfl, rfl, by decide +kernel⟩
  -- The first page is full, and of the limit one record is left for the second.
  let replies : ListingReplies manager (some session) none 51 arrivals :=
    ⟨session, rfl, rfl, ⟨"Payments", ""⟩, by rfl, _, _, application, _, _, [], rfl,
      .cons first (.cons second .nil), .full (by decide) (.short (by decide) (by decide))⟩
  obtain ⟨returns, told⟩ := listCertificates_keeps_prefixes manager now (some session)
    (some { limit := some 51 }) none arrivals
  obtain ⟨_, _, _, _, breaks⟩ := told replies
  exact ⟨_, (returns _).mpr ⟨replies, rfl⟩, breaks _ _ _ rfl (by decide) (by decide)⟩

end Manager

end Issuance
