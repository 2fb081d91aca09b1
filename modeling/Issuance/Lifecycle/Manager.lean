import Issuance.Config
import Issuance.Polling
import Issuance.Resolution
import Issuance.Zone

/-! What all operations share: settings, the session they need, and the zone they work in. -/

namespace Issuance

/-- The settings of a manager of certificates. -/
structure Manager where
  /-- The zone for operations that name none. -/
  zone : Option String := none
  /-- Seconds between status reads. -/
  pollInterval : Double
  /-- Seconds to wait before an imported certificate is looked up. -/
  settleDelay : Double
  /-- What the manager calls itself to the service. -/
  identifier : String
  /-- What every wait is left to. -/
  sleeper : Sleeper := Sleeper.system

namespace Failure

/-- An action that needs a session with a company. -/
def unauthenticated (action : String) : Failure :=
  .authentication ⟨"Must be authenticated to " ++ action, none⟩

/-- No zone was given, nor is there a default. -/
def emptyZone : Failure := .validation ⟨"Empty zone", none⟩

/-- A text that names no zone. -/
def invalidZone (error : ZoneError) : Failure := .validation ⟨"Invalid zone", some error.message⟩

/-- An alias that the application of the zone does not have. -/
def aliasNotFound (zone : Zone) : Failure :=
  .notFound
    ⟨"Issuing template alias '" ++ zone.templateAlias ++ "' not found in application '" ++ zone.application ++
      "'", none⟩
    (some "issuing template") (some zone.text)

end Failure

namespace Manager

/-- The address a host is known by when it cannot be looked up. -/
def loopback : String := "127.0.0.1"

/-- The identifier of a manager: the given one, else the address of its host. -/
def identifierFrom (given host : Option String) : String :=
  (filled? given).getD (host.getD loopback)

/-- The manager for a configuration, on a host with the given address. -/
def ofConfig (config : Config) (host : Option String) : Manager where
  zone := config.zone
  pollInterval := config.pollInterval
  settleDelay := config.settleDelay
  identifier := identifierFrom none host

/-- The session, which has to belong to a company. -/
def authenticated (session : Option Session) (action : String) : Outcome Session :=
  match session with
  | some found => if found.account.company.isSome then .ok found else .error (.unauthenticated action)
  | none => .error (.unauthenticated action)

/-- The zone to work in: the given one, else the manager's. -/
def zoneFor (manager : Manager) (given : Option String) : Outcome Zone :=
  -- An empty zone counts as none on either side.
  match (filled? given).or (filled? manager.zone) with
  | none => .error .emptyZone
  | some text =>
    match Zone.parse text with
    | .ok zone => .ok zone
    | .error error => .error (.invalidZone error)

/-- The template a zone names in its application; none if it leaves that to the service. -/
def templateOf (application : Application) (zone : Zone) : Outcome (Option String) :=
  if zone.templateAlias.isEmpty then .ok none
  else match application.templateId? zone.templateAlias with
    | some template => .ok (some template)
    | none => .error (.aliasNotFound zone)

/-- The ids of the application and the template behind a zone. -/
def resolveZone (session : Session) (zone : Zone) : Run (String × Option String) := do
  let application ← Client.application session zone.application
  return (application.id, ← Run.ofOutcome (templateOf application zone))

/-- The kind of client, unless a custom field names one. -/
def clientKind : String := "cert-lifecycle-manager"

/-- Who submits: the kind of client and the manager's identifier. -/
def clientInformation (manager : Manager) (fields : List CustomField) : ClientInformation :=
  ⟨CustomField.origin clientKind fields, manager.identifier⟩

/-- The workload of a location that names none. -/
def defaultWorkload : String := "Default"

/-- Where a certificate will be used, if a location is given. -/
def usageMetadata (location : Option Location) : Option (List UsageMetadata) :=
  location.map fun found =>
    [⟨if found.workload.isEmpty then defaultWorkload else found.workload, some found.node⟩]

end Manager

end Issuance
