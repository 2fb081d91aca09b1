import Issuance.Config
import Issuance.Proofs.Address
import Issuance.Proofs.Schema
import Issuance.Proofs.Utf8
import Issuance.Proofs.Wire
import Issuance.Proofs.Yaml.Mapping

/-! A configuration that is saved is loaded again as it was, for it passes its own check. -/

namespace Issuance

open Yaml (Datum Leaf Inked IsKey Writable textEntries)

namespace Yaml

/-- The characters a mapping is written with are ASCII, and none of them is a carriage return. -/
theorem Inked.ascii {c : Char} (inked : Inked c) : c.toNat < 128 ∧ c ≠ '\r' := by
  rcases inked with printed | rfl
  · refine ⟨Nat.lt_of_le_of_lt printed.2 (by decide), ?_⟩
    rintro rfl
    exact absurd printed.1 (by decide)
  · decide

end Yaml

namespace Config

variable {config : Config}

/-- What holds of a configuration that was accepted: it is as its own check leaves it. -/
structure Accepted (config : Config) : Prop where
  baseUrl : Address.normalize config.baseUrl = config.baseUrl
  timeout : 0 < config.timeout
  pollInterval : config.pollInterval.lt .zero = false
  settleDelay : config.settleDelay.lt .zero = false

theorem normalize_checkUrl {value : Value} {url : String} (valid : checkUrl value = .valid url) :
    Address.normalize url = url := by
  obtain ⟨given, -, rfl⟩ := Validated.map_eq_valid.mp valid
  exact Address.normalize_normalize given

theorem pos_of_checkTimeout {value : Value} {seconds : Int}
    (valid : checkTimeout value = .valid seconds) : 0 < seconds := by
  obtain ⟨given, -, passed⟩ := Validated.andThen_eq_valid.mp valid
  split at passed
  · cases passed
  · next positive =>
    cases passed
    omega

theorem nonnegative_of_checkDelay {value : Value} {seconds : Double}
    (valid : checkDelay value = .valid seconds) : seconds.lt .zero = false := by
  obtain ⟨given, -, passed⟩ := Validated.andThen_eq_valid.mp valid
  split at passed
  · cases passed
  · next positive =>
    cases passed
    exact Bool.eq_false_of_not_eq_true positive

/-- Whatever passes the check is accepted, its defaults included. -/
theorem accepted_of_check {value : Value} (valid : check value = .valid config) :
    Accepted config := by
  unfold check Check.record at valid
  split at valid
  -- The members are checked one behind the other, and the last one is taken off first.
  · obtain ⟨_, settleDelay, throughInterval, delay, rfl⟩ := Validated.seq_eq_valid.mp valid
    obtain ⟨_, pollInterval, throughTls, interval, rfl⟩ := Validated.seq_eq_valid.mp throughInterval
    obtain ⟨_, verifyTls, throughTimeout, -, rfl⟩ := Validated.seq_eq_valid.mp throughTls
    obtain ⟨_, timeout, throughZone, seconds, rfl⟩ := Validated.seq_eq_valid.mp throughTimeout
    obtain ⟨_, zone, throughUrl, -, rfl⟩ := Validated.seq_eq_valid.mp throughZone
    obtain ⟨_, baseUrl, throughKey, url, rfl⟩ := Validated.seq_eq_valid.mp throughUrl
    obtain ⟨apiKey, -, rfl⟩ := Validated.map_eq_valid.mp throughKey
    exact {
      baseUrl := Field.holds_of_withDefault (fun url => Address.normalize url = url)
        normalize_checkUrl (Address.normalize_normalize "") url
      timeout := Field.holds_of_withDefault (0 < ·) pos_of_checkTimeout (by decide) seconds
      pollInterval := Field.holds_of_withDefault (fun delay => delay.lt .zero = false)
        nonnegative_of_checkDelay (by decide) interval
      settleDelay := Field.holds_of_withDefault (fun delay => delay.lt .zero = false)
        nonnegative_of_checkDelay (by decide) delay }
  · cases valid

/-- The names a configuration is written under. -/
def names : List String :=
  ["api_key", "base_url", "import_settle_delay", "poll_interval", "timeout", "verify_ssl", "zone"]

theorem sublist_names (config : Config) : (config.entries.map (·.1)).Sublist names := by
  -- Only the zone may be left out, and it is the last of the names.
  unfold entries
  cases config.zone.filter (!·.isEmpty) with
  | none => exact List.sublist_append_left (names.take 6) ["zone"]
  | some zone => exact List.Sublist.refl names

theorem isKey_of_mem {name : String} (member : name ∈ names) : IsKey name where
  word := by
    have words : ∀ name ∈ names, name.toList ≠ [] ∧
        (∀ c ∈ name.toList, Yaml.Printed c ∧ c ≠ ' ') ∧ name.toList.head? ≠ some '#' ∧
          name.toList.getLast? ≠ some ':' := by decide
    obtain ⟨filled, printed, head, last⟩ := words name member
    exact ⟨filled, printed, head, last⟩
  letter := by
    have letters : ∀ name ∈ names, ∀ c ∈ name.toList.head?, c.isAlpha = true := by decide
    exact letters name member
  short := by
    have lengths : ∀ name ∈ names, name.length ≤ 1024 := by decide
    exact lengths name member
  tag := by
    have tags : ∀ name ∈ names, Yaml.Tag.ofPlain name = .text := by decide
    exact tags name member

/-- Only the timeout can be a number of more digits than can be written. -/
theorem all_isWritable (config : Config) :
    config.entries.all (·.2.datum.isWritable) = !Platform.isTooLong config.timeout := by
  unfold entries
  cases config.zone.filter (!·.isEmpty) <;>
    simp [Leaf.datum, Datum.isWritable]

/-- What is written is all of the file, or nothing. -/
theorem fileText?_eq (config : Config) : config.fileText? =
    if Platform.isTooLong config.timeout then none else some (Yaml.render config.entries) := by
  rw [fileText?, Yaml.render?, all_isWritable]
  cases Platform.isTooLong config.timeout <;> rfl

theorem writable_entries (short : Platform.isTooLong config.timeout = false) :
    Writable config.entries where
  keys := fun entry member =>
    isKey_of_mem ((sublist_names config).subset (List.mem_map_of_mem member))
  values := List.all_eq_true.mp (by rw [all_isWritable, short]; rfl)

/-- Text without carriage returns has line feeds for its line ends already. -/
theorem withLineFeeds_eq {cs : List Char} (other : ∀ c ∈ cs, c ≠ '\r') : withLineFeeds cs = cs := by
  induction cs with
  | nil => rfl
  | cons c rest ih =>
    obtain ⟨here, there⟩ := List.forall_mem_cons.mp other
    rw [withLineFeeds]
    · rw [if_neg here, ih there]
    · rintro _ ⟨⟩
      exact absurd rfl here

/-- An entry under a text is a member in front of the others. -/
theorem membersOf_text_cons (name : String) (value : Datum) (rest : List (Datum × Datum)) :
    membersOf ((.text name, value) :: rest) =
      (membersOf rest).map ((name, value.asValue) :: ·) := by
  rw [membersOf, List.mapM_cons]
  rfl

/-- The members of a mapping all keys of which are texts. -/
theorem membersOf_textEntries (entries : List (String × Datum)) :
    membersOf (textEntries entries) = .ok (entries.map fun entry => (entry.1, entry.2.asValue)) := by
  induction entries with
  | nil => rfl
  | cons entry entries ih =>
    rw [Yaml.textEntries_cons, membersOf_text_cons, ih]
    rfl

/-- The members of a configuration, as a file holds them. -/
def members (config : Config) : Members := Payload.given [
  ("api_key", some (.text config.apiKey)), ("base_url", some (.text config.baseUrl)),
  ("import_settle_delay", some (.float config.settleDelay)),
  ("poll_interval", some (.float config.pollInterval)), ("timeout", some (.int config.timeout)),
  ("verify_ssl", some (.bool config.verifyTls)),
  ("zone", (config.zone.filter (!·.isEmpty)).map .text)]

theorem map_entries (config : Config) :
    (config.entries.map fun entry => (entry.1, entry.2.datum.asValue)) = config.members := by
  unfold entries members
  cases config.zone.filter (!·.isEmpty) <;> rfl

/-- A configuration as it is loaded again: without a zone if that is empty. -/
def withoutEmptyZone (config : Config) : Config :=
  { config with zone := config.zone.filter (!·.isEmpty) }

/-- An accepted configuration passes its own check once more. -/
theorem check_members (accepted : Accepted config) :
    check (.record config.members) = .valid config.withoutEmptyZone := by
  have url : checkUrl (.text config.baseUrl) = .valid config.baseUrl := by
    rw [checkUrl, Check.text_text, Validated.map, accepted.baseUrl]
  have timeout : checkTimeout (.int config.timeout) = .valid config.timeout := by
    rw [checkTimeout, Check.integer_int, Validated.andThen, if_neg (by have := accepted.timeout; omega)]
  -- A delay was written as a float whatever it was given as, so no other number is to be read.
  have delay : ∀ {seconds : Double}, seconds.lt .zero = false →
      checkDelay (.float seconds) = .valid seconds := by
    intro seconds nonnegative
    simp [checkDelay, Check.number, Validated.andThen, nonnegative]
  have key : Check.secret (.text config.apiKey) = .valid config.apiKey := rfl
  simp [check, Check.record, members, Field.required, Field.withDefault, Field.optional,
    Field.orElse_eq_settle, field, Field.settle_map, key, url, timeout,
    delay accepted.pollInterval, delay accepted.settleDelay, withoutEmptyZone]

/-- The data of a configuration that was written is read as that configuration. -/
theorem ofDatum_entries (accepted : Accepted config) :
    ofDatum (some (.mapping (textEntries (config.entries.map fun entry =>
      (entry.1, entry.2.datum))))) = .ok config.withoutEmptyZone := by
  -- The API key comes first, and is a text already.
  obtain ⟨others, shape⟩ : ∃ others, (textEntries (config.entries.map fun entry =>
      (entry.1, entry.2.datum))) = (.text "api_key", .text config.apiKey) :: others := ⟨_, rfl⟩
  have same : Datum.sameKey (.text "api_key") (.text "api_key") = true := by decide
  have key : apiKeyOf? ((.text "api_key", .text config.apiKey) :: others) =
      some (.text config.apiKey) := by
    simp only [apiKeyOf?, List.find?_cons, same, Option.map_some]
  have kept : Datum.put (.text "api_key") (.text (Datum.text config.apiKey).asText)
      ((.text "api_key", .text config.apiKey) :: others) =
        (.text "api_key", .text config.apiKey) :: others := by
    rw [Datum.put, if_pos same]
    rfl
  have found : membersOf ((.text "api_key", .text config.apiKey) :: others) =
      .ok config.members := by
    rw [← shape, membersOf_textEntries, List.map_map]
    exact congrArg Except.ok (map_entries config)
  rw [shape, ofDatum]
  simp only [key, kept, found, Datum.isWritable, Bool.not_true, Bool.false_eq_true, if_false, bind,
    Except.bind, check_members accepted]
  rfl

/-- The file of a configuration is read as that configuration. -/
theorem ofFile_render (accepted : Accepted config)
    (short : Platform.isTooLong config.timeout = false) :
    ofFile (Utf8.encode (Yaml.render config.entries)) = .ok config.withoutEmptyZone := by
  have writable := writable_entries short
  -- All that is written is ASCII without carriage returns, which the file keeps as it is.
  have inked : ∀ c ∈ (Yaml.render config.entries).toList, Inked c := by
    rw [Yaml.render, String.toList_ofList]
    exact Yaml.Scanner.inked_entries writable
  have decoded : Utf8.decodeList? (Utf8.encode (Yaml.render config.entries)) =
      some (Yaml.render config.entries).toList := by
    have ascii : Utf8.Ascii (Yaml.render config.entries).toList := fun c member =>
      (inked c member).ascii.1
    rw [Utf8.encode_of_ascii ascii, Utf8.decodeList?_of_ascii ascii]
  have text := @Yaml.read_render config.entries writable (by simp [entries])
    ((sublist_names config).nodup (by decide))
  rw [ofFile, decoded]
  simp only [withLineFeeds_eq fun c member => (inked c member).ascii.2, text]
  exact ofDatum_entries accepted

/-- An empty file holds no configuration. -/
theorem ofFile_nil : ofFile [] = .error (.failed .configWithoutKey) := by
  have text : Utf8.decodeList? [] = some [] := by decide +kernel
  have data : Yaml.read (withLineFeeds []) = .ok none := rfl
  simp only [ofFile, text, data, ofDatum]

/-- Any positive timeout is accepted, however great it is. -/
theorem check_timeout {seconds : Int} (positive : 0 < seconds) :
    check (.record [("api_key", .secret "k"), ("timeout", .int seconds)]) = .valid {
      apiKey := "k", baseUrl := Address.normalize "", zone := none, timeout := seconds,
      verifyTls := true, pollInterval := .ofInt 2, settleDelay := .ofInt 1 } := by
  have found : (field "timeout").withDefault 30 checkTimeout
      [("api_key", .secret "k"), ("timeout", .int seconds)] = .valid seconds := by
    show (if seconds ≤ 0 then Validated.fault .refused else .valid seconds).inside _ = _
    rw [if_neg (Int.not_le.mpr positive)]
    rfl
  show Config.mk <$> _ <*> _ <*> _ <*> (field "timeout").withDefault 30 checkTimeout _
    <*> _ <*> _ <*> _ = _
  rw [found]
  rfl

end Config

namespace ConfigSources

variable {sources : ConfigSources}

/-- An empty API key in the environment is none. -/
theorem environmentKey?_none (unset : sources.apiKey = none ∨ sources.apiKey = some "") :
    sources.environmentKey? = none := by
  rcases unset with missing | empty
  · rw [environmentKey?, missing]
    rfl
  · rw [environmentKey?, empty]
    decide

/-- What is saved is the text of the configuration, and without a key around, loading reads that file. -/
theorem load_save (unset : sources.apiKey = none ∨ sources.apiKey = some "") (config : Config) :
    (sources.save config).1 = config.fileText? ∧
      (sources.save config).2.load = Config.ofFile (Utf8.encode (config.fileText?.getD "")) := by
  -- The environment stays without a key.
  have unset : (sources.save config).2.environmentKey? = none := environmentKey?_none unset
  refine ⟨by simp only [save], ?_⟩
  rw [load, unset]
  rfl

/-- With a timeout that is too long to be written, nothing is saved, and an empty file is loaded. -/
theorem load_save_of_tooLong (unset : sources.apiKey = none ∨ sources.apiKey = some "")
    {config : Config} (long : Platform.isTooLong config.timeout) :
    (sources.save config).1 = none ∧
      (sources.save config).2.load = .error (.failed .configWithoutKey) := by
  obtain ⟨written, loaded⟩ := load_save unset config
  rw [written, loaded, Config.fileText?_eq, if_pos long]
  exact ⟨rfl, Config.ofFile_nil⟩

/--
An accepted configuration is loaded again as it was saved, if its timeout has at most 4300 digits.

A timeout of more digits is accepted too, but then nothing is written, and nothing is loaded.
-/
theorem load_after_save {value : Value} {config : Config}
    (accepted : Config.check value = .valid config)
    (unset : sources.apiKey = none ∨ sources.apiKey = some "") :
    let saved := sources.save config
    ((Nat.toDigits 10 config.timeout.natAbs).length ≤ 4300 →
      saved.1.isSome ∧ saved.2.load = .ok config.withoutEmptyZone) ∧
    (4300 < (Nat.toDigits 10 config.timeout.natAbs).length →
      saved.1 = none ∧ saved.2.load = .error (.failed .configWithoutKey)) := by
  intro saved
  refine ⟨fun few => ?_, fun many => load_save_of_tooLong unset (Platform.isTooLong_iff.mpr many)⟩
  have short : ¬ Platform.isTooLong config.timeout :=
    fun long => absurd (Platform.isTooLong_iff.mp long) (Nat.not_lt.mpr few)
  obtain ⟨written, loaded⟩ : saved.1 = _ ∧ saved.2.load = _ := load_save unset config
  rw [written, loaded, Config.fileText?_eq, if_neg short]
  exact ⟨rfl, Config.ofFile_render (Config.accepted_of_check accepted) (Bool.not_eq_true _ ▸ short)⟩

/-- A key with a space in front, a comment mark and a line end is loaded again. -/
theorem load_after_save_quoted :
    ∃ config : Config,
      Config.check (.record [("api_key", .secret " #\n"), ("base_url", .text "Host"),
        ("zone", .text "")]) = .valid config ∧
      config.apiKey = " #\n" ∧ config.zone = some "" ∧
      (save {} config).2.load = .ok { config with zone := none } :=
  have accepted : Config.check (.record [("api_key", .secret " #\n"), ("base_url", .text "Host"),
      ("zone", .text "")]) = .valid {
        apiKey := " #\n", baseUrl := "https://host/", zone := some "", timeout := 30,
        verifyTls := true, pollInterval := .ofInt 2, settleDelay := .ofInt 1 } := by decide
  have saved := @load_after_save {} _ _ accepted (.inl rfl)
  ⟨_, accepted, rfl, rfl, (saved.1 (by decide +kernel)).2⟩

/-- A timeout of one digit more than can be written is accepted, and does not come back. -/
theorem load_after_save_tooLong :
    let value : Value := .record [("api_key", .secret "k"), ("timeout", .int (10 ^ 4300 : Nat))]
    ∃ config : Config, Config.check value = .valid config ∧
      (save {} config).1 = none ∧ (save {} config).2.load ≠ .ok config.withoutEmptyZone := by
  intro value
  obtain ⟨config, accepted, great⟩ : ∃ config : Config,
      Config.check value = .valid config ∧ config.timeout = (10 ^ 4300 : Nat) :=
    ⟨_, Config.check_timeout (by decide +kernel), rfl⟩
  have long : Platform.isTooLong config.timeout := by
    rw [great]
    decide +kernel
  obtain ⟨unsaved, lost⟩ := @load_save_of_tooLong {} (.inl rfl) config long
  exact ⟨config, accepted, unsaved, by rw [lost]; nofun⟩

end ConfigSources

end Issuance
