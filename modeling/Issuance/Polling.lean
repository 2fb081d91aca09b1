import Issuance.Client
import Issuance.Resolution

/-! Waiting for issuance: the status is read at a fixed interval until it is final or time is up. -/

namespace Issuance

namespace Failure

/-- A request that is issued, but with no certificate. -/
def nothingIssued (requestId : String) : Failure :=
  .decoding ⟨"Certificate request is ISSUED but lists no certificate", some requestId⟩ []

end Failure

namespace Polling

/-- Reads the status once; what is final and bad ends the wait, and so does having no time to wait. -/
def observe (session : Session) (requestId : String) (timeout : Double) : Run RequestStatus := do
  let status ← Client.status session requestId
  if status.state = .failed then
    Run.log .error "Certificate issuance failed"
      [("request_id", .text requestId), ("error", status.errorValue)]
    Run.fail (.issuanceFailed requestId status)
  else if status.state.inFlight && timeout.isZero then
    Run.fail (.pending requestId (some status.state.word))
  else return status

/-- Reads the status until it is final or the time since `start` is up; as many reads as the first argument allows. -/
def readUntilFinal (sleeper : Sleeper) (session : Session) (requestId : String)
    (timeout interval start : Double) : Nat → Run RequestStatus
  | 0 => throw .unanswered
  | reads + 1 => do
    let status ← observe session requestId timeout
    -- A final status counts even if time is up as well.
    if !status.state.inFlight then return status
    else if timeout.le ((← get).clock - start) then
      Run.log .warning "Timed out waiting for issuance"
        [("request_id", .text requestId), ("timeout", .float timeout)]
      Run.fail (.timedOut requestId timeout)
    else
      Run.sleep sleeper interval
      readUntilFinal sleeper session requestId timeout interval start reads

/-- The certificate that came out of a request that is no longer in flight. -/
def issuedCertificate (requestId : String) (status : RequestStatus) : Run String := do
  if status.certificateId.isEmpty then Run.fail (.nothingIssued requestId)
  else
    Run.log .info "Certificate issued"
      [("request_id", .text requestId), ("certificate_id", .text status.certificateId)]
    return status.certificateId

/-- Waits until a request is issued; without a request id there is nothing to wait for. -/
def awaitIssuance (sleeper : Sleeper) (session : Option Session) (interval : Double)
    (requestId : Option String) (timeout : Double) : Run (Option String) := do
  match filled? requestId with
  | none => return none
  | some requestId =>
    let session ← Run.present session
    let dialogue ← get
    -- Each read takes a reply, so that reads cannot outnumber the replies to come by more than one.
    let status ← readUntilFinal sleeper session requestId timeout interval dialogue.clock
      (dialogue.arrivals.length + 1)
    return some (← issuedCertificate requestId status)

end Polling

end Issuance
