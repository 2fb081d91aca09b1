import Issuance.Failure
import Issuance.Service.Address
import Issuance.Yaml.Printer
import Issuance.Yaml.Reader

/-! The configuration: read from the environment, or else from a file, and written to that file. -/

namespace Issuance

/-- How to reach the service, and how to work with it. -/
structure Config where
  apiKey : String
  baseUrl : String
  /-- The zone for operations that name none. -/
  zone : Option String
  /-- Seconds until a call is given up. -/
  timeout : Int
  /-- Whether the service has to show a valid certificate. -/
  verifyTls : Bool
  /-- Seconds between status reads. -/
  pollInterval : Double
  /-- Seconds to wait before an imported certificate is looked up. -/
  settleDelay : Double
  deriving DecidableEq

/-- Where a configuration may come from: the environment, and the file if there is one. -/
structure ConfigSources where
  apiKey : Option String := none
  url : Option String := none
  zone : Option String := none
  file : Option Bytes := none
  deriving Repr

/-- Why no configuration could be loaded. -/
inductive ConfigError where
  | failed (failure : Failure)
  /-- The file is not UTF-8. -/
  | notText
  /-- The file has data that cannot be read as the kind it says it is. -/
  | unreadable (error : Yaml.Error)
  /-- The file has a key that is not a text. -/
  | keyNotText

namespace Failure

/-- Neither an environment nor a file to load from. -/
def notConfigured (path : String) : Failure :=
  .configuration ⟨"Certificate service not configured",
    some ("Set CERTLM_CLOUD_API_KEY or create " ++ path)⟩ []

/-- A file that is not YAML. -/
def malformedConfig : Failure := .configuration ⟨"Invalid config file format", none⟩ []

/-- A file without an API key. -/
def configWithoutKey : Failure :=
  .configuration ⟨"Invalid config file", some "Missing 'api_key' in config file"⟩ []

/-- A configuration with values that are not allowed. -/
def invalidConfig (faults : List Fault) : Failure :=
  .configuration ⟨"Invalid configuration", none⟩ faults

end Failure

namespace Config

/-- The file a configuration is kept in. -/
def path : String := "~/.config/certlm/cloud.yaml"

/-- A base address, which is put in its normal form. -/
def checkUrl : Check String := fun value => (Check.text value).map Address.normalize

/-- A timeout, which is positive. -/
def checkTimeout : Check Int := fun value =>
  (Check.integer value).andThen fun seconds =>
    if seconds ≤ 0 then .fault .refused else .valid seconds

/-- A delay, which is not negative. -/
def checkDelay : Check Double := fun value =>
  (Check.number value).andThen fun seconds =>
    if seconds.lt .zero then .fault .refused else .valid seconds

/-- Reads a configuration. -/
def check : Check Config := .record fun members =>
  Config.mk <$> (field "api_key").required .secret members
    <*> (field "base_url").withDefault (Address.normalize "") checkUrl members
    <*> (field "zone").optional .text members
    <*> (field "timeout").withDefault 30 checkTimeout members
    <*> (field "verify_ssl").withDefault true .boolean members
    <*> (field "poll_interval").withDefault (Double.ofInt 2) checkDelay members
    <*> (field "import_settle_delay").withDefault (Double.ofInt 1) checkDelay members

/-- A configuration as data; its key stays a secret. -/
def data (config : Config) : Value := .record [
  ("api_key", .secret config.apiKey),
  ("base_url", .text config.baseUrl),
  ("zone", .textOrNull config.zone),
  ("timeout", .int config.timeout),
  ("verify_ssl", .bool config.verifyTls),
  ("poll_interval", .float config.pollInterval),
  ("import_settle_delay", .float config.settleDelay)]

/-- The configuration of an environment that has an API key. -/
def ofEnvironment (apiKey : String) (sources : ConfigSources) : Config where
  apiKey
  baseUrl := Address.normalize (sources.url.getD "")
  zone := sources.zone
  timeout := 30
  verifyTls := true
  pollInterval := .ofInt 2
  settleDelay := .ofInt 1

/-- A text with line feeds for its line ends. -/
def withLineFeeds : List Char → List Char
  | [] => []
  | '\r' :: '\n' :: rest => '\n' :: withLineFeeds rest
  | c :: rest => (if c = '\r' then '\n' else c) :: withLineFeeds rest

/-- The members of a mapping, all keys of which have to be texts. -/
def membersOf (entries : List (Yaml.Datum × Yaml.Datum)) : Except ConfigError Members :=
  entries.mapM fun (key, value) =>
    match key with
    | .text name => .ok (name, value.asValue)
    | _ => .error .keyNotText

/-- The entry for the API key. -/
def apiKeyOf? (entries : List (Yaml.Datum × Yaml.Datum)) : Option Yaml.Datum :=
  (entries.find? fun (key, _) => key.sameKey (.text "api_key")).map (·.2)

/-- The configuration a file's data says. The API key may be any data, and is taken as its text. -/
def ofDatum (data : Option Yaml.Datum) : Except ConfigError Config :=
  match data with
  | some (.mapping entries) =>
    match apiKeyOf? entries with
    | none => .error (.failed .configWithoutKey)
    | some apiKey => do
      if !apiKey.isWritable then throw (.unreadable .outOfRange)
      -- A key such as 12345 is a number to YAML, but a text to the service.
      let entries := Yaml.Datum.put (.text "api_key") (.text apiKey.asText) entries
      match check (.record (← membersOf entries)) with
      | .valid config => return config
      | .invalid faults => throw (.failed (.invalidConfig faults))
  | _ => .error (.failed .configWithoutKey)

/-- The configuration of a file. -/
def ofFile (file : Bytes) : Except ConfigError Config :=
  match Utf8.decodeList? file with
  | none => .error .notText
  | some text =>
    match Yaml.read (withLineFeeds text) with
    | .ok data => ofDatum data
    | .error .malformed => .error (.failed .malformedConfig)
    | .error error => .error (.unreadable error)

/-- What a configuration is written as; a zone is left out if it is empty. -/
def entries (config : Config) : List (String × Yaml.Leaf) :=
  let zone := match config.zone.filter (!·.isEmpty) with
    | some zone => [("zone", .text zone)]
    | none => []
  [("api_key", .text config.apiKey), ("base_url", .text config.baseUrl),
    ("import_settle_delay", .float config.settleDelay), ("poll_interval", .float config.pollInterval),
    ("timeout", .int config.timeout), ("verify_ssl", .bool config.verifyTls)] ++ zone

/-- The text of the file of a configuration, if it can be written. -/
def fileText? (config : Config) : Option String := Yaml.render? config.entries

/-- The permissions of the file, which only its owner may read and write. -/
def fileMode : Nat := 0o600

end Config

namespace ConfigSources

/-- The API key of the environment, unless it is empty. -/
def environmentKey? (sources : ConfigSources) : Option String := sources.apiKey.filter (!·.isEmpty)

/-- Whether there is anything to load a configuration from. -/
def isConfigured (sources : ConfigSources) : Bool :=
  sources.environmentKey?.isSome || sources.file.isSome

/-- Loads a configuration: from the environment if it has an API key, else from the file. -/
def load (sources : ConfigSources) : Except ConfigError Config :=
  -- The sources do not mix: with a key in the environment the file is not even read.
  match sources.environmentKey?, sources.file with
  | some apiKey, _ => .ok (Config.ofEnvironment apiKey sources)
  | none, some file => Config.ofFile file
  | none, none => .error (.failed (.notConfigured Config.path))

/-- Saves a configuration to the file: the text that is written, if any, and the sources after that. -/
def save (sources : ConfigSources) (config : Config) : Option String × ConfigSources :=
  -- The file is emptied before anything is written to it.
  (config.fileText?, { sources with file := some (Utf8.encode (config.fileText?.getD "")) })

end ConfigSources

end Issuance
