import Issuance.Lifecycle.Manager

/-! The listing of an application's certificates, page by page up to a limit. -/

namespace Issuance

/-- What a listing tells of a certificate. -/
def CertificateSummary.info (summary : CertificateSummary) : CertificateInfo where
  id := summary.id
  cn := summary.subjectCn
  dnsNames := summary.dnsNames
  serial := summary.serialNumber
  thumbprint := summary.fingerprint
  validFrom := summary.validityStart
  validTo := summary.validityEnd

namespace Manager

/-- How many certificates a page holds. -/
def pageSize : Nat := 50

/-- The limit of a listing that names none. -/
def unboundedLimit : Nat := 100000000

/-- The limit a filter sets. -/
def limitOf (filter : CertificateFilter) : Nat := (filter.limit.map Int.toNat).getD unboundedLimit

/-- The conditions on the certificates of an application; those that have expired are left out unless wanted. -/
def listingExpression (applicationId : String) (withExpired : Bool) (now : Moment) : Expression where
  operands := ⟨"appstackIds", .matching, .text applicationId⟩ ::
    (if withExpired then [] else [⟨"validityEnd", .gte, .text now.textToSecond⟩])
  connective := some .and

/-- The search for one page of a listing. -/
def pageSearch (expression : Expression) (page : Nat) : Search := ⟨expression, some ⟨page, pageSize⟩⟩

/-- One page of a listing. -/
def listingPage (session : Session) (expression : Expression) (page : Nat) :
    Run (List CertificateInfo) := do
  let result ← Client.search session (pageSearch expression page)
  return result.certificates.map CertificateSummary.info

/-- The pages from a page on, up to a limit, and the number of the page that was the last to be looked for.
A page that is not full is the last. The first argument bounds the pages; the limit itself is enough. -/
def listingFrom (session : Session) (expression : Expression) :
    Nat → Nat → Nat → Run (List CertificateInfo × Nat)
  | 0, _, page => return ([], page)
  | pages + 1, limit, page => do
    if limit = 0 then return ([], page)
    -- The cut holds the limit even against a page that is fuller than was asked for.
    let batch := (← listingPage session expression page).take limit
    if batch.length < pageSize then return (batch, page)
    let (rest, last) ← listingFrom session expression pages (limit - pageSize) (page + 1)
    return (batch ++ rest, last)

/-- Lists the certificates of a zone's application. -/
def listCertificates (manager : Manager) (now : Moment) (session : Option Session)
    (filter : Option CertificateFilter) (zone : Option String) : Run (List CertificateInfo) := do
  let session ← Run.ofOutcome (authenticated session "list certificates")
  let filter := filter.getD {}
  let zone ← Run.ofOutcome (manager.zoneFor zone)
  let application ← Client.application session zone.application
  let expression := listingExpression application.id filter.withExpired now
  let limit := limitOf filter
  let (found, last) ← listingFrom session expression limit limit 0
  Run.log .debug "Listed certificates" [("zone", .text zone.text), ("count", .int found.length),
    ("pages", .int (last + 1))]
  return found

end Manager

end Issuance
