import Issuance.Proofs.Config
import Issuance.Proofs.Yaml.Reader

/-! Where a configuration is loaded from, and for which files a load tells what is wrong with them. -/

namespace Issuance

open Yaml (Datum)

namespace Yaml.Datum

/-- A value that is set where its key is already leaves all keys as they were. -/
theorem map_fst_put {key value : Datum} {entries : List (Datum × Datum)}
    (present : ∃ entry ∈ entries, sameKey entry.1 key = true) :
    (put key value entries).map (·.1) = entries.map (·.1) := by
  induction entries with
  | nil => simp at present
  | cons entry rest ih =>
    obtain ⟨found, other⟩ := entry
    by_cases same : sameKey found key = true
    · rw [put, if_pos same]
      rfl
    · -- The first entry is not the one, so that it is among the rest.
      have behind : ∃ entry ∈ rest, sameKey entry.1 key = true := by simpa [same] using present
      rw [put, if_neg same, List.map_cons, List.map_cons, ih behind]

end Yaml.Datum

/-- What a file that is read as YAML is told to be wrong for. -/
inductive Failure.OfFile : Failure → Prop
  | malformed : OfFile .malformedConfig
  | withoutKey : OfFile .configWithoutKey
  | invalid (faults : List Fault) : OfFile (.invalidConfig faults)

/-- A file that is there is never told of as if nothing were configured. -/
theorem Failure.OfFile.ne_notConfigured {failure : Failure} (ofFile : failure.OfFile)
    (path : String) : failure ≠ .notConfigured path := by
  cases ofFile <;> simp [malformedConfig, configWithoutKey, invalidConfig, notConfigured]

namespace Config

/-- What a load comes to, where it is known of what is loaded whether it escapes the report. -/
inductive Loads (escapes : Prop) : Except ConfigError Config → Prop
  | config {config : Config} (accepted : Accepted config) (kept : ¬escapes) :
      Loads escapes (.ok config)
  | failure {failure : Failure} (ofFile : failure.OfFile) (kept : ¬escapes) :
      Loads escapes (.error (.failed failure))
  | other {error : ConfigError} (foreign : ∀ failure, error ≠ .failed failure) (escaped : escapes) :
      Loads escapes (.error error)

namespace Loads

variable {escapes : Prop} {loaded : Except ConfigError Config}

theorem accepted (loads : Loads escapes loaded) {config : Config} (given : loaded = .ok config) :
    Accepted config := by
  cases loads with
  | config accepted =>
    cases given
    exact accepted
  | failure => cases given
  | other => cases given

theorem ofFile (loads : Loads escapes loaded) {failure : Failure}
    (failed : loaded = .error (.failed failure)) : failure.OfFile := by
  cases loads with
  | config => cases failed
  | failure ofFile =>
    cases failed
    exact ofFile
  | other foreign => exact absurd (Except.error.inj failed) (foreign failure)

end Loads

/-- Entries have a key that is not a text. -/
def HasOtherKey (entries : List (Datum × Datum)) : Prop :=
  ∃ key ∈ entries.map (·.1), ∀ name, key ≠ .text name

/-- The members of a mapping are there unless it has a key that is not a text. -/
theorem membersOf_cases (entries : List (Datum × Datum)) :
    (∃ members, membersOf entries = .ok members ∧ ¬HasOtherKey entries) ∨
      membersOf entries = .error .keyNotText ∧ HasOtherKey entries := by
  induction entries with
  | nil => exact .inl ⟨[], rfl, nofun⟩
  | cons entry rest ih =>
    obtain ⟨key, value⟩ := entry
    by_cases named : ∃ name, key = .text name
    · -- A text leaves it to the keys behind it.
      obtain ⟨name, rfl⟩ := named
      have same : HasOtherKey ((.text name, value) :: rest) ↔ HasOtherKey rest := by
        simp [HasOtherKey]
      rw [membersOf_text_cons, same]
      rcases ih with ⟨members, found, texts⟩ | ⟨failed, other⟩
      · rw [found]
        exact .inl ⟨_, rfl, texts⟩
      · rw [failed]
        exact .inr ⟨rfl, other⟩
    · -- The first key that is not a text ends the reading, whatever is behind it.
      refine .inr ⟨?_, key, .head _, fun name same => named ⟨name, same⟩⟩
      rw [membersOf, List.mapM_cons]
      cases key <;> first | rfl | exact absurd ⟨_, rfl⟩ named

/-- The API key is replaced in its place, so that the keys are texts after that if they were before. -/
theorem hasOtherKey_put {entries : List (Datum × Datum)} {key value : Datum}
    (found : apiKeyOf? entries = some key) :
    HasOtherKey (Datum.put (.text "api_key") value entries) ↔ HasOtherKey entries := by
  -- The key was found, so that it is set where it stands.
  obtain ⟨entry, here, -⟩ := Option.map_eq_some_iff.mp found
  have same : Datum.sameKey entry.1 (.text "api_key") = true := by simpa using List.find?_some here
  rw [HasOtherKey, Datum.map_fst_put ⟨entry, List.mem_of_find?_eq_some here, same⟩, HasOtherKey]

/-- Data with an API key that cannot be taken for a configuration, nor be checked as one. -/
inductive Unfit : Option Datum → Prop
  /-- A number in the API key has too many digits to be written as a text. -/
  | longKey {entries : List (Datum × Datum)} {key : Datum} (found : apiKeyOf? entries = some key)
      (long : key.isWritable = false) : Unfit (some (.mapping entries))
  | otherKey {entries : List (Datum × Datum)} {key : Datum} (found : apiKeyOf? entries = some key)
      (other : HasOtherKey entries) : Unfit (some (.mapping entries))

theorem loads_ofDatum (data : Option Datum) : Loads (Unfit data) (ofDatum data) := by
  unfold ofDatum
  split
  · next entries =>
    split
    · next missing =>
      -- Without an API key the other keys are not looked at.
      refine .failure .withoutKey ?_
      rintro (⟨found, -⟩ | ⟨found, -⟩) <;> simp [missing] at found
    · next key found =>
      cases writable : key.isWritable with
      | false =>
        show Loads _ (.error (.unreadable .outOfRange))
        exact .other (fun _ => nofun) (.longKey found writable)
      | true =>
        -- The key can be written, so that only the other keys can still be in the way.
        have same := @hasOtherKey_put entries key (.text key.asText) found
        have kept : ¬HasOtherKey entries → ¬Unfit (some (.mapping entries)) := by
          rintro texts (⟨again, long⟩ | ⟨-, other⟩)
          · cases found.symm.trans again
            simp [writable] at long
          · exact texts other
        obtain ⟨members, read, texts⟩ | ⟨failed, other⟩ :=
          membersOf_cases (Datum.put (.text "api_key") (.text key.asText) entries)
        · simp only [Bool.not_true, Bool.false_eq_true, if_false, read, bind, Except.bind]
          split
          · next valid => exact .config (accepted_of_check valid) (kept (mt same.mpr texts))
          · exact .failure (.invalid _) (kept (mt same.mpr texts))
        · simp only [Bool.not_true, Bool.false_eq_true, if_false, failed, bind, Except.bind]
          exact .other (fun _ => nofun) (.otherKey found (same.mp other))
  · next foreign =>
    refine .failure .withoutKey ?_
    rintro (⟨found, -⟩ | ⟨found, -⟩) <;> exact foreign _ rfl

/-- What a file holds where its load fails, but with no failure that tells of the configuration. -/
inductive Escapes (file : Bytes) : Prop
  | notText (undecoded : Utf8.decodeList? file = none)
  /-- The text is given up by its scanner, or a scalar in it is not what its tag says. -/
  | unreadable {text : List Char} {error : Yaml.Error} (decoded : Utf8.decodeList? file = some text)
      (unreadable : Yaml.Unreadable (withLineFeeds text) error) (other : error ≠ .malformed)
  | unfit {text : List Char} {data : Option Datum} (decoded : Utf8.decodeList? file = some text)
      (read : Yaml.read (withLineFeeds text) = .ok data) (unfit : Unfit data)

/-- What a file that is a text holds is told by how that text is read. -/
theorem escapes_iff {file : Bytes} {text : List Char}
    (decoded : Utf8.decodeList? file = some text) : Escapes file ↔
      (∃ error, Yaml.read (withLineFeeds text) = .error error ∧ error ≠ .malformed) ∨
        ∃ data, Yaml.read (withLineFeeds text) = .ok data ∧ Unfit data := by
  constructor
  · rintro (undecoded | ⟨again, unreadable, other⟩ | ⟨again, read, unfit⟩)
    · simp [decoded] at undecoded
    · cases decoded.symm.trans again
      exact .inl ⟨_, (Yaml.read_eq_error other).mpr unreadable, other⟩
    · cases decoded.symm.trans again
      exact .inr ⟨_, read, unfit⟩
  · rintro (⟨error, failed, other⟩ | ⟨data, read, unfit⟩)
    · exact .unreadable decoded ((Yaml.read_eq_error other).mp failed) other
    · exact .unfit decoded read unfit

theorem loads_ofFile (file : Bytes) : Loads (Escapes file) (ofFile file) := by
  unfold ofFile
  split
  · next undecoded => exact .other (fun _ => nofun) (.notText undecoded)
  · next text decoded =>
    rw [escapes_iff decoded]
    -- Of the errors of a reader only one is told as a failure: that the text is no YAML.
    split
    · next data read => simpa [read] using loads_ofDatum data
    · next failed => exact .failure .malformed (by simp [failed])
    · next error other failed => exact .other (fun _ => nofun) (.inl ⟨error, failed, other⟩)

end Config

namespace ConfigSources

variable {sources : ConfigSources}

/-- There is nothing to load from just where a load fails for that. -/
theorem isConfigured_eq_false :
    sources.isConfigured = false ↔ sources.load = .error (.failed (.notConfigured Config.path)) := by
  unfold isConfigured load
  cases sources.environmentKey? with
  | some apiKey => simp
  | none =>
    cases sources.file with
    | none => simp
    | some file =>
      -- A file may be told to be wrong, but with other words.
      refine iff_of_false (by simp) fun failed => ?_
      exact ((Config.loads_ofFile file).ofFile failed).ne_notConfigured Config.path rfl

theorem load_environment {apiKey : String} (given : sources.apiKey = some apiKey)
    (filled : apiKey ≠ "") : sources.load = .ok (.ofEnvironment apiKey sources) := by
  have key : sources.environmentKey? = some apiKey := by simp [environmentKey?, given, filled]
  rw [load, key]

/-- What is taken from the environment is what the check makes of it. -/
theorem check_environment (apiKey : String) (sources : ConfigSources) :
    Config.check (.record [("api_key", .secret apiKey), ("base_url", .text (sources.url.getD "")),
      ("zone", .textOrNull sources.zone)]) = .valid (.ofEnvironment apiKey sources) := by
  obtain ⟨_, url, zone, file⟩ := sources
  cases zone <;> rfl

/-- Without a key in the environment, nothing else there counts. -/
theorem load_eq_of_file {other : ConfigSources}
    (unset : sources.apiKey = none ∨ sources.apiKey = some "")
    (alsoUnset : other.apiKey = none ∨ other.apiKey = some "") (same : other.file = sources.file) :
    other.load = sources.load := by
  rw [load, load, environmentKey?_none unset, environmentKey?_none alsoUnset, same]
  -- Only with a key would the rest of the environment be looked at.
  cases sources.file <;> rfl

/-- The sources do not mix: with a key in the environment that is all that counts, and without one it
is the file; and whether there is a source at all is told by a load as it is told before. -/
theorem load_separates_sources (sources : ConfigSources) :
    (sources.isConfigured = false ↔
      sources.load = .error (.failed (.notConfigured Config.path))) ∧
    (∀ apiKey, sources.apiKey = some apiKey → apiKey ≠ "" →
      (∃ config, sources.load = .ok config ∧ config.apiKey = apiKey ∧
        config.baseUrl = Address.normalize (sources.url.getD "") ∧ config.zone = sources.zone ∧
        Config.check (.record [("api_key", .secret apiKey),
          ("base_url", .text (sources.url.getD "")), ("zone", .textOrNull sources.zone)]) =
            .valid config) ∧
      ∀ file, { sources with file }.load = sources.load) ∧
    (sources.apiKey = none ∨ sources.apiKey = some "" →
      ∀ other : ConfigSources, other.apiKey = none ∨ other.apiKey = some "" →
        other.file = sources.file → other.load = sources.load) := by
  refine ⟨isConfigured_eq_false, fun apiKey given filled => ?_, fun unset other => load_eq_of_file unset⟩
  -- The file is not part of what a key in the environment is taken with.
  have loaded := load_environment given filled
  refine ⟨⟨_, loaded, rfl, rfl, rfl, check_environment apiKey sources⟩, fun file => ?_⟩
  rw [loaded]
  exact @load_environment { sources with file } apiKey given filled

/-- With a key in the environment it does not matter that the file is none. -/
example : (load { apiKey := some "k", url := some "HTTP://Host", file := some [0xff] }) = .ok {
    apiKey := "k", baseUrl := "https://host/", zone := none, timeout := 30, verifyTls := true,
    pollInterval := .ofInt 2, settleDelay := .ofInt 1 } :=
  rfl

end ConfigSources

end Issuance
