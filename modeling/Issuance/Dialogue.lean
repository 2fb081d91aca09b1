import Issuance.Failure
import Issuance.Decoding
import Issuance.Log.Level
import Issuance.Log.Redaction
import Issuance.Platform

/-! Dialogues with the service as data: what is sent, what arrives, what is waited for, logged and recorded. -/

namespace Issuance

/-- One call to the service. -/
structure Call where
  method : String
  path : String
  /-- The key sent in the header for API keys; without one there is no header. -/
  apiKey : Option String := none
  parameters : Option Members := none
  body : Option Value := none

/-- What becomes of one call. -/
inductive Reply where
  | response (response : Response)
  /-- Nothing arrives in time. -/
  | timeout (text : String)
  /-- The transport fails otherwise. -/
  | broken (text : String)
  /-- The call is given up for a reason, told by its name, that is no failure of the transport. -/
  | abandoned (reason : String)
  deriving DecidableEq, Repr

/-- A reply, and how many seconds it takes. -/
structure Arrival where
  delay : Double
  reply : Reply

/-- An event that was logged. -/
structure LogEntry where
  level : Level
  event : String
  fields : Members

/-- What a log entry shows: its fields without credentials. -/
def LogEntry.shown (entry : LogEntry) : Members :=
  entry.fields.map fun (key, value) => (key, Redaction.redactValue key value)

/-- The course of a dialogue so far, and the replies that are still to come. -/
structure Dialogue where
  arrivals : List Arrival := []
  /-- Seconds since the dialogue began. -/
  clock : Double := .zero
  sent : List Call := []
  sleeps : List Double := []
  log : List LogEntry := []
  /-- The pickup id last recorded on the certificate request at hand. -/
  recorded : Option String := none

/-- Why a dialogue ends without a result. -/
inductive Stop where
  | failed (failure : Failure)
  /-- A call that no reply is left for. -/
  | unanswered
  /-- A call that was given up for the named reason. -/
  | abandoned (reason : String)
  /-- A call that needs a session was made without one. -/
  | noSession
  /-- Something the platform refused. -/
  | lapsed (lapse : Lapse)

/-- A computation that holds a dialogue with the service. -/
abbrev Run := ExceptT Stop (StateM Dialogue)

namespace Run

/-- Ends with a failure. -/
def fail {α : Type} (failure : Failure) : Run α := throw (.failed failure)

/-- Takes over an outcome. -/
def ofOutcome {α : Type} : Outcome α → Run α
  | .ok value => pure value
  | .error failure => fail failure

/-- Logs an event. -/
def log (level : Level) (event : String) (fields : Members) : Run Unit :=
  modify fun dialogue => { dialogue with log := dialogue.log ++ [⟨level, event, fields⟩] }

/-- Takes over what the platform gives, or its refusal. -/
def ofPlatform {α : Type} : Except Lapse α → Run α
  | .ok value => pure value
  | .error lapse => throw (.lapsed lapse)

/-- Waits for a number of seconds, unless the sleeper refuses that. -/
def sleep (sleeper : Sleeper) (seconds : Double) : Run Unit :=
  match sleeper seconds with
  | some lapse => throw (.lapsed lapse)
  | none => modify fun dialogue => { dialogue with
      sleeps := dialogue.sleeps ++ [seconds], clock := dialogue.clock + seconds }

/-- Records a pickup id on the certificate request at hand. -/
def recordPickup (pickupId : String) : Run Unit :=
  modify fun dialogue => { dialogue with recorded := some pickupId }

/-- Makes a call and takes the next reply, which moves the clock by its delay. -/
def exchange (call : Call) : Run Reply := do
  -- A call is sent whether or not anything ever answers it.
  modify fun dialogue => { dialogue with sent := dialogue.sent ++ [call] }
  match (← get).arrivals with
  | [] => throw .unanswered
  | arrival :: rest =>
    modify fun dialogue => { dialogue with
      arrivals := rest, clock := dialogue.clock + arrival.delay }
    return arrival.reply

/-- The session, where a call needs one. -/
def present (session : Option Session) : Run Session :=
  match session with
  | some found => pure found
  | none => throw .noSession

/-- Holds a dialogue that starts with the given replies to come. -/
def on {α : Type} (run : Run α) (arrivals : List Arrival) : Except Stop α × Dialogue :=
  Id.run (run.run { arrivals })

end Run

end Issuance
