import Issuance.Client
import Issuance.Fingerprint

/-! Which request, certificate or application a caller means, given a fingerprint, a request id or a name. -/

namespace Issuance

/-- What a fingerprint resolves to: a request id, which may be empty, and a certificate id if one is told. -/
structure FingerprintMatch where
  requestId : String
  certificateId : Option String
  deriving DecidableEq, Repr

/-- The way a renewal names what to renew. -/
inductive RenewalTarget where
  | fingerprint (thumbprint : String)
  | request (requestId : String)
  deriving DecidableEq, Repr

/-- A text, unless it is missing or empty. -/
def filled? (text : Option String) : Option String := text.filter (!·.isEmpty)

namespace Failure

/-- No certificate has the fingerprint. -/
def noCertificate (fingerprint : String) : Failure :=
  .notFound ⟨"No certificate found using fingerprint " ++ fingerprint, none⟩ (some "certificate")
    (some fingerprint)

/-- No request, nor any certificate, is told for the fingerprint. -/
def noRequest (fingerprint key : String) : Failure :=
  .notFound ⟨"No certificate request found using fingerprint " ++ fingerprint, none⟩
    (some "certificate request") (some key)

/-- A renewal that names two targets. -/
def twoTargets : Failure :=
  .validation ⟨"Failed to create renewal request",
    some "Specify either CertificateDN or Thumbprint, not both"⟩

/-- A renewal that names no target. -/
def noTarget : Failure :=
  .validation ⟨"Failed to create renewal request", some "CertificateDN or Thumbprint required"⟩

end Failure

namespace FingerprintMatch

/-- The items of a list, each once, in the order in which they first come. -/
def distinct (items : List String) : List String :=
  items.foldl (fun found item => if found.contains item then found else found ++ [item]) []

/-- The request ids that are told, each once. -/
def requestIds (summaries : List CertificateSummary) : List String :=
  distinct ((summaries.map (·.requestId)).filter (!·.isEmpty))

/-- The last certificate id that is told. -/
def certificateId? (summaries : List CertificateSummary) : Option String :=
  ((summaries.map (·.id)).filter (!·.isEmpty)).getLast?

/-- What the certificates found for a fingerprint resolve to: at most one request. -/
def ofSummaries (fingerprint : String) (summaries : List CertificateSummary) :
    Outcome FingerprintMatch :=
  if summaries.isEmpty then .error (.noCertificate fingerprint)
  -- Several requests are never resolved to one of them; that is left to the caller.
  else match requestIds summaries, certificateId? summaries with
    | [], none => .error (.noRequest fingerprint fingerprint)
    | [], some certificateId => .ok ⟨"", some certificateId⟩
    | [requestId], certificateId => .ok ⟨requestId, certificateId⟩
    | requestIds, _ => .error (.ambiguous fingerprint requestIds)

end FingerprintMatch

namespace RenewalRequest

/-- The target of a renewal, which has to name exactly one. -/
def target (renewal : RenewalRequest) : Outcome RenewalTarget :=
  match filled? renewal.thumbprint, filled? renewal.certificateDn with
  | some _, some _ => .error .twoTargets
  | some thumbprint, none => .ok (.fingerprint thumbprint)
  | none, some requestId => .ok (.request requestId)
  | none, none => .error .noTarget

end RenewalRequest

namespace Resolution

/-- The search for certificates with a fingerprint, in whatever spelling. -/
def fingerprintSearch (fingerprint : String) : Search where
  expression := { operands := [⟨"fingerprint", .matching, .text (Fingerprint.normalize fingerprint)⟩] }

/-- Searches certificates with a fingerprint. -/
def searchByFingerprint (session : Session) (fingerprint : String) : Run SearchResult :=
  Client.search session (fingerprintSearch fingerprint)

/-- Logs what a fingerprint resolved to, or that it is ambiguous. -/
def logMatch (fingerprint : String) : Outcome FingerprintMatch → Run Unit
  | .ok found =>
    Run.log .debug "Resolved fingerprint" [("fingerprint", .text fingerprint),
      ("request_id", .text found.requestId),
      ("certificate_id", (found.certificateId.map .text).getD .null)]
  | .error (.ambiguous _ requestIds) =>
    Run.log .warning "Fingerprint matches several certificate requests"
      [("fingerprint", .text fingerprint), ("request_ids", .list (requestIds.map .text))]
  | .error _ => pure ()

/-- Resolves a fingerprint to the one request that owns it. -/
def resolveFingerprint (session : Session) (fingerprint : String) : Run FingerprintMatch := do
  let normalized := Fingerprint.normalize fingerprint
  let result ← searchByFingerprint session normalized
  let outcome := FingerprintMatch.ofSummaries normalized result.certificates
  logMatch normalized outcome
  Run.ofOutcome outcome

/-- The request a renewal is for; a thumbprint has to lead to one. -/
def renewalTarget (session : Option Session) (renewal : RenewalRequest) : Run String := do
  match ← Run.ofOutcome renewal.target with
  | .request requestId => return requestId
  | .fingerprint thumbprint =>
    let found ← resolveFingerprint (← Run.present session) thumbprint
    -- A certificate without a request behind it cannot be renewed.
    if found.requestId.isEmpty then
      Run.fail (.noRequest (Fingerprint.normalize thumbprint) thumbprint)
    else return found.requestId

/-- The record of a certificate, which has to come from the given request. -/
def verifyLineage (session : Session) (certificateId requestId : String)
    (fingerprint : Option String := none) : Run ManagedCertificate := do
  let certificate ← Client.certificate session certificateId
  if certificate.requestId = requestId then return certificate
  else Run.fail (.superseded requestId certificateId certificate.requestId fingerprint)

end Resolution

end Issuance
