import Issuance.Log.Level
import Issuance.Log.Redaction
import Issuance.Text.Literal

/-! Where log events go: levels and handlers that are set together, and loggers that remember their filter. -/

namespace Issuance

/-- What is installed to write events. -/
inductive Handler where
  /-- Standard error, as JSON records or as text. -/
  | console (json : Bool)
  /-- A file of JSON records. -/
  | file
  deriving DecidableEq, Repr

/-- The log file that a configuration may name. -/
inductive LogFile where
  | unnamed
  | opens
  /-- A file that cannot be opened. -/
  | fails
  deriving DecidableEq, Repr

/-- Why logging is not configured as it was wanted. -/
inductive ConfigureError where
  | level (error : Level.ChoiceError)
  /-- The log file cannot be opened. -/
  | file
  deriving DecidableEq, Repr

/-- One logger: its dotted name, what it adds to every event, and the filter it has kept since its first use. -/
structure Logger where
  name : String
  context : Members := []
  filter : Option Level := none

/-- The state of logging. -/
structure Journal where
  /-- The bound on events of the package's loggers. -/
  level : Level := .notSet
  handlers : List Handler := []
  /-- The filter that loggers take over at their first use; none before anything is configured. -/
  filter : Option Level := none
  loggers : List (String × Logger) := []
  /-- The records in the log file, if one has been opened. -/
  file : Option (List Members) := none
  /-- The records on standard error. -/
  console : List Members := []

namespace Journal

/-- The name of the package's own logger, above all its others. -/
def packageName : String := "cert_lifecycle_manager"

/-- Whether a logger is the package's or one below it. -/
def isPackageLogger (name : String) : Bool :=
  name == packageName || (packageName ++ ".").isPrefixOf name

/-- The level that is set when none is chosen. -/
def defaultChoice : Level.Choice := .numbered Level.warning.number

/-- The bound on loggers that none is set for. -/
def ambientLevel : Level := .warning

/-- The bound in force for the package's loggers. -/
def effectiveLevel (journal : Journal) : Level :=
  if journal.level = .notSet then ambientLevel else journal.level

/-- Sets level, filter and handlers, or leaves everything as it is if the level is unknown. -/
def configure (journal : Journal) (choice : Level.Choice) (json : Bool) (file : LogFile) :
    Except ConfigureError Unit × Journal :=
  -- The level is resolved before anything is changed, so that an unknown one changes nothing.
  match choice.resolve with
  | .error error => (.error (.level error), journal)
  | .ok level =>
    let journal := { journal with level, filter := some level, handlers := [.console json] }
    match file with
    | .unnamed => (.ok (), journal)
    | .opens => (.ok (), { journal with
        handlers := journal.handlers ++ [.file], file := some (journal.file.getD []) })
    -- The file is opened last, when the earlier handlers are gone already.
    | .fails => (.error .file, journal)

mutual

/-- Data as it is written in a record: a secret that is left is shown masked. -/
def written : Value → Value
  | .secret s => .text (Literal.ofSecret s)
  | .list items => .list (writtenItems items)
  | .record members => .record (writtenMembers members)
  | value => value

/-- The items of a list as they are written. -/
def writtenItems : List Value → List Value
  | [] => []
  | item :: rest => written item :: writtenItems rest

/-- The members of a mapping as they are written. -/
def writtenMembers : List (String × Value) → List (String × Value)
  | [] => []
  | (key, value) :: rest => (key, written value) :: writtenMembers rest

end

/-- The key that the time of an event goes under, so that no field can. -/
def timeKey : String := "timestamp"

/-- The record of an event: context, fields, the event's text, level and logger, without credentials.
The time is for the writer to add. -/
def record (logger : Logger) (level : Level) (event : Value) (fields : Members) : Members :=
  let members := fields.foldl (fun found (key, value) => Members.put key value found) logger.context
  let members := match event with
    | .null => members
    | text => Members.put Redaction.eventKey text members
  let members := (Members.put "level" (.text level.word) members).filter (·.1 != timeKey)
  -- Masking comes after all members are set, so that none of them slips past it.
  writtenMembers (Redaction.redact (Members.put "logger" (.text logger.name) members))

/-- Whether an event that has passed its logger's filter is written by the handlers. -/
def accepts (journal : Journal) (logger : Logger) (level : Level) : Bool :=
  isPackageLogger logger.name && level.passes journal.effectiveLevel

/-- Writes a record with every handler. -/
def write (journal : Journal) (found : Members) : Journal :=
  journal.handlers.foldl (fun journal handler => match handler with
    | .console json => if json then { journal with console := journal.console ++ [found] } else journal
    | .file => { journal with file := journal.file.map (· ++ [found]) }) journal

/-- Keeps a logger under the key it is known by. -/
def keep (journal : Journal) (key : String) (logger : Logger) : Journal :=
  { journal with loggers := (key, logger) :: journal.loggers.filter (·.1 != key) }

/-- Readies the logger known by a key: it is made if it is new, and takes over the filter at its first use. -/
def ready (journal : Journal) (key : String) (fresh : Logger) : Logger × Journal :=
  let logger := (journal.loggers.lookup key).getD fresh
  let logger := { logger with filter := logger.filter.or journal.filter }
  (logger, journal.keep key logger)

/-- Logs an event through the logger known by a key. -/
def log (journal : Journal) (key : String) (fresh : Logger) (level : Level) (event : Value)
    (fields : Members) : Journal :=
  let (logger, journal) := journal.ready key fresh
  -- Two bounds apply: the one the logger has kept, and the one that is in force now.
  if logger.filter.any level.passes && journal.accepts logger level then
    journal.write (record logger level event fields)
  else journal

end Journal

end Issuance
