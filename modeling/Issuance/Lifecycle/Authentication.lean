import Issuance.Lifecycle.Manager

/-! Authentication by an API key, and the issuing template behind a zone. -/

namespace Issuance

namespace Failure

/-- No API key was given. -/
def missingCredentials : Failure :=
  .validation ⟨"Failed to authenticate: missing credentials", none⟩

/-- An account that belongs to no company. -/
def noCompany : Failure := .authentication ⟨"Authenticated account has no company context", none⟩

/-- A session whose account belongs to no company. -/
def sessionWithoutCompany : Failure := .authentication ⟨"Session has no company context", none⟩

/-- A zone without the alias that is needed. -/
def noAlias (zone : Zone) : Failure :=
  .validation ⟨"Zone has no issuing template alias", some zone.text⟩

end Failure

/-- The company a session acts for. -/
def Session.companyId (session : Session) : Outcome String :=
  match session.companyId? with
  | some company => .ok company
  | none => .error .sessionWithoutCompany

namespace Manager

/-- Opens a session with an API key. -/
def authenticate (apiKey : Option String) : Run Session := do
  match filled? apiKey with
  | none => Run.fail .missingCredentials
  | some apiKey =>
    let account ← Client.account apiKey
    match account.company with
    | none => Run.fail .noCompany
    | some company =>
      Run.log .info "Authenticated with certificate service"
        [("username", (account.user.map fun user => .text user.username).getD .null),
          ("company_id", .text company.id)]
      return ⟨apiKey, account⟩

/-- Reads the issuing template behind a zone, which has to name an alias. -/
def readZone (manager : Manager) (session : Option Session) (zone : Option String) :
    Run IssuingTemplate := do
  let session ← Run.ofOutcome (authenticated session "read the zone configuration")
  let zone ← Run.ofOutcome (manager.zoneFor zone)
  if zone.templateAlias.isEmpty then Run.fail (.noAlias zone)
  else Client.issuingTemplate session zone.application zone.templateAlias

end Manager

end Issuance
