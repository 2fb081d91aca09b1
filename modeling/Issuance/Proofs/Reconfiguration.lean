import Issuance.Proofs.Journal

/-! A configuration takes the place of the one before it, in all its parts, or it changes nothing. -/

namespace Issuance

namespace Level

/-- The names of a level, in upper case. -/
def names : Level → List String
  | notSet => ["NOTSET"]
  | debug => ["DEBUG"]
  | info => ["INFO"]
  | warning => ["WARNING", "WARN"]
  | error => ["ERROR"]
  | critical => ["CRITICAL", "FATAL"]

/-- A choice means a level by one of its names, in any case, or by its number. -/
def Choice.Means : Choice → Level → Prop
  | named name, level => Text.upper name ∈ level.names
  | numbered number, level => (level.number : Int) = number

instance (choice : Choice) (level : Level) : Decidable (choice.Means level) :=
  match choice with
  | .named name => inferInstanceAs (Decidable (Text.upper name ∈ level.names))
  | .numbered number => inferInstanceAs (Decidable ((level.number : Int) = number))

/-- A name in upper case stands for the level that has it among its names. -/
theorem ofUpperName?_eq_some {name : String} {level : Level} :
    ofUpperName? name = some level ↔ name ∈ level.names := by
  constructor
  · intro found
    -- Every name that is known leads to one level, and all other names lead to none.
    unfold ofUpperName? at found
    split at found <;> cases found <;> simp [names]
  · -- Two of the levels have a second name, and the others have one each.
    intro member
    cases level <;> simp only [names, List.mem_cons, List.not_mem_nil, or_false] at member
    case warning | critical => rcases member with rfl | rfl <;> rfl
    all_goals rw [member]; rfl

/-- A number stands for the level that has it. -/
theorem ofNumber?_eq_some {number : Int} {level : Level} :
    ofNumber? number = some level ↔ (level.number : Int) = number := by
  constructor
  · intro found
    -- The level that is found has passed the test for the number.
    unfold ofNumber? at found
    simpa using List.find?_some found
  · intro same
    -- No two levels have the same number, so that the first one with it is the level.
    subst same
    cases level <;> rfl

/-- A choice is resolved to the level that it means. -/
theorem Choice.resolve_eq_ok {choice : Choice} {level : Level} :
    choice.resolve = .ok level ↔ choice.Means level := by
  -- Either way, the choice is resolved to what is found, and refused where nothing is.
  cases choice with
  | named name =>
    rw [Means, ← ofUpperName?_eq_some, resolve]
    cases ofUpperName? (Text.upper name) <;> simp
  | numbered number =>
    rw [Means, ← ofNumber?_eq_some, resolve]
    cases ofNumber? number <;> simp

/-- A choice that means no level is refused. -/
theorem Choice.resolve_eq_error {choice : Choice} (unknown : ∀ level, ¬ choice.Means level) :
    ∃ refusal, choice.resolve = .error refusal := by
  cases resolved : choice.resolve with
  | ok level => exact absurd (resolve_eq_ok.mp resolved) (unknown level)
  | error refusal => exact ⟨refusal, rfl⟩

end Level

namespace Journal

/-- The last of the configurations that mean a level has made this setting. -/
def LastSet (steps : List Step) (setting : Setting) : Prop :=
  ∃ before choice file after,
    steps = before ++ .configure choice setting.json file :: after ∧
      choice.Means setting.level ∧ setting.toFile = decide (file = .opens) ∧
      ∀ later json file, .configure later json file ∈ after → ∀ level, ¬ later.Means level

/-- A step sets something exactly if it is a configuration that means a level. -/
theorem Step.setting?_eq_some {step : Step} {setting : Setting} :
    step.setting? = some setting ↔
      ∃ choice file, step = .configure choice setting.json file ∧
        choice.Means setting.level ∧ setting.toFile = decide (file = .opens) := by
  constructor
  · intro set
    cases step with
    | log key name context level event fields => cases set
    | configure choice json file =>
      -- What the choice is resolved to is all of the setting that the step does not say itself.
      cases resolved : choice.resolve with
      | error refusal =>
        simp only [setting?, resolved, Except.toOption, Option.map_none, reduceCtorEq] at set
      | ok level =>
        simp only [setting?, resolved, Except.toOption, Option.map_some, Option.some.injEq] at set
        subst set
        exact ⟨choice, file, rfl, Level.Choice.resolve_eq_ok.mp resolved, rfl⟩
  · intro configured
    obtain ⟨level, json, toFile⟩ := setting
    obtain ⟨choice, file, rfl, means, rfl⟩ := configured
    simp only [setting?, Level.Choice.resolve_eq_ok.mpr means, Except.toOption, Option.map_some]

/-- A step sets nothing exactly if no configuration that it makes means a level. -/
theorem Step.setting?_eq_none {step : Step} :
    step.setting? = none ↔
      ∀ choice json file, step = .configure choice json file → ∀ level, ¬ choice.Means level := by
  constructor
  · -- A configuration that means a level would have set something.
    intro nothing choice json file same level means
    have set : step.setting? = some ⟨level, json, file = .opens⟩ :=
      setting?_eq_some.mpr ⟨choice, file, same, means, rfl⟩
    rw [nothing] at set
    cases set
  · intro unknown
    cases set : step.setting? with
    | none => rfl
    | some setting =>
      obtain ⟨choice, file, same, means, _⟩ := setting?_eq_some.mp set
      exact absurd means (unknown choice _ _ same _)

/-- What is in force is what has been set last. -/
theorem inForce?_eq_some {steps : List Step} {setting : Setting} :
    inForce? steps = some setting ↔ LastSet steps setting := by
  unfold inForce?
  -- Read from the end, the setting in force is the first that is found.
  rw [List.getLast?_filterMap, List.findSome?_eq_some_iff]
  constructor
  · intro found
    obtain ⟨after, step, before, shape, set, silent⟩ := found
    obtain ⟨choice, file, rfl, means, opened⟩ := Step.setting?_eq_some.mp set
    refine ⟨before.reverse, choice, file, after.reverse, ?_, means, opened, ?_⟩
    · have turned := congrArg List.reverse shape
      simpa using turned
    · intro later json file member
      have quiet := silent _ (List.mem_reverse.mp member)
      exact Step.setting?_eq_none.mp quiet later json file rfl
  · intro last
    obtain ⟨before, choice, file, after, rfl, means, opened, silent⟩ := last
    refine ⟨after.reverse, .configure choice setting.json file, before.reverse,
      by simp, Step.setting?_eq_some.mpr ⟨choice, file, rfl, means, opened⟩, ?_⟩
    intro step member
    refine Step.setting?_eq_none.mpr fun later json file same => ?_
    rw [same, List.mem_reverse] at member
    exact silent later json file member

/-- One of the changes that are made to a journal to configure it. -/
inductive Change where
  /-- Loggers that are used for the first time from now on take over a level. -/
  | filter (level : Level)
  | remove (handler : Handler)
  /-- Events of the package's loggers are bounded by a level. -/
  | bound (level : Level)
  /-- A handler is added behind the others; one that writes to the file opens it. -/
  | install (handler : Handler)

/-- The journal after a change. -/
def Change.apply (journal : Journal) : Change → Journal
  | .filter level => { journal with filter := some level }
  | .remove handler => { journal with handlers := journal.handlers.erase handler }
  | .bound level => { journal with level }
  | .install handler => { journal with
      handlers := journal.handlers ++ [handler]
      file := if handler = .file then some (journal.file.getD []) else journal.file }

/-- The changes that a setting takes, in their order, from the handlers that are found installed. -/
def changes (found : List Handler) (setting : Setting) : List Change :=
  -- Every handler that is found goes before one of the setting comes.
  .filter setting.level :: (found.map .remove ++
    .bound setting.level :: setting.handlers.map .install)

/-- Removed one by one, the handlers are all gone, and nothing else has changed. -/
theorem foldl_remove (journal : Journal) :
    (journal.handlers.map .remove).foldl Change.apply journal = { journal with handlers := [] } := by
  rcases journal with ⟨level, handlers, filter, loggers, file, console⟩
  -- The handler that is removed is the first one installed, so that the others are left for the rest.
  induction handlers with
  | nil => rfl
  | cons handler rest ih =>
    have removed : Change.apply ⟨level, handler :: rest, filter, loggers, file, console⟩
        (.remove handler) = ⟨level, rest, filter, loggers, file, console⟩ := by
      simp [Change.apply]
    simp only [List.map_cons, List.foldl_cons, removed]
    exact ih

/-- A configuration that means a level makes all the changes for its setting, whatever becomes of its file. -/
theorem configure_of_means {choice : Level.Choice} {level : Level} (means : choice.Means level)
    (journal : Journal) (json : Bool) (file : LogFile) :
    journal.configure choice json file =
      (if file = .fails then .error .file else .ok (),
        (changes journal.handlers ⟨level, json, file = .opens⟩).foldl Change.apply journal) := by
  have resolved := Level.Choice.resolve_eq_ok.mpr means
  unfold configure changes
  -- The handlers that are found are still installed when the filter has been set.
  have removed : (journal.handlers.map .remove).foldl Change.apply
      (Change.apply journal (.filter level)) = { journal with handlers := [], filter := some level } :=
    foldl_remove (Change.apply journal (.filter level))
  rw [resolved, List.foldl_cons, List.foldl_append, removed]
  cases file <;> rfl

/-- A configuration that means no level is refused, and changes nothing. -/
theorem configure_of_unknown {choice : Level.Choice} (unknown : ∀ level, ¬ choice.Means level)
    (journal : Journal) (json : Bool) (file : LogFile) :
    ∃ refusal, journal.configure choice json file = (.error (.level refusal), journal) := by
  obtain ⟨refusal, resolved⟩ := Level.Choice.resolve_eq_error unknown
  refine ⟨refusal, ?_⟩
  -- The level is resolved before anything else is done.
  unfold configure
  rw [resolved]

/-- A step that changes nothing leaves every run as it is without the step. -/
theorem afterAll_of_idle {steps : List Step} {step : Step}
    (idle : step.apply (afterAll steps) = afterAll steps) (others : List Step) :
    afterAll (steps ++ step :: others) = afterAll (steps ++ others) := by
  -- The other steps start from the same journal in both runs.
  unfold afterAll at idle ⊢
  rw [List.foldl_append, List.foldl_append, List.foldl_cons, idle]

/--
The handlers and the level are those of the last configuration that means a level.

Such a configuration makes all its changes, and takes every handler away that it finds.
If its file cannot be opened it fails, but only behind all of that, and without a handler for the file.
One that means no level is refused, and no run tells whether it has been made.
-/
theorem configure_replaces (steps : List Step) :
    let journal := afterAll steps
    (∀ setting, LastSet steps setting →
      journal.handlers = .console setting.json :: (if setting.toFile then [.file] else []) ∧
        journal.level = setting.level) ∧
    ((∀ setting, ¬ LastSet steps setting) → journal.handlers = [] ∧ journal.level = .notSet) ∧
    ∀ choice json file,
      (∀ level, choice.Means level →
        journal.configure choice json file =
            (if file = .fails then .error .file else .ok (),
              afterAll (steps ++ [.configure choice json file])) ∧
          afterAll (steps ++ [.configure choice json file]) =
            (changes journal.handlers ⟨level, json, file = .opens⟩).foldl Change.apply journal) ∧
      ((∀ level, ¬ choice.Means level) →
        (∃ refusal, (journal.configure choice json file).1 = .error (.level refusal)) ∧
          ∀ others, afterAll (steps ++ .configure choice json file :: others) =
            afterAll (steps ++ others)) := by
  intro journal
  have follows : Follows journal steps := Follows.run steps
  refine ⟨fun setting last => ?_, fun never => ?_, fun choice json file =>
    ⟨fun level means => ?_, fun unknown => ?_⟩⟩
  · -- What has been set last is in force, and a journal follows what is in force.
    have inForce := inForce?_eq_some.mpr last
    rw [follows.handlers, follows.level, inForce]
    exact ⟨rfl, rfl⟩
  · -- As long as nothing has been set, both are as they have started.
    have nothing : inForce? steps = none := by
      cases found : inForce? steps with
      | none => rfl
      | some setting => exact absurd (inForce?_eq_some.mp found) (never setting)
    rw [follows.handlers, follows.level, nothing]
    exact ⟨rfl, rfl⟩
  · have configured := configure_of_means means journal json file
    -- The run goes on with the journal that the configuration leaves.
    have applied : afterAll (steps ++ [.configure choice json file]) =
        (journal.configure choice json file).2 := List.foldl_append
    rw [applied, configured]
    exact ⟨rfl, rfl⟩
  · -- What is refused changes nothing, and so makes no difference to any step behind it.
    obtain ⟨refusal, refused⟩ := configure_of_unknown unknown journal json file
    refine ⟨⟨refusal, by rw [refused]⟩, afterAll_of_idle ?_⟩
    show (journal.configure choice json file).2 = journal
    rw [refused]

/-- A name that no level has leaves the console and the file that were configured before. -/
theorem configure_replaces_unknown :
    let steps : List Step := [.configure (.named "Error") false .opens]
    let unknown : Step := .configure (.named "chatty") true .unnamed
    LastSet steps ⟨.error, false, true⟩ ∧
      (afterAll (steps ++ [unknown])).handlers = [.console false, .file] ∧
      (afterAll (steps ++ [unknown])).level = .error := by
  intro steps unknown
  have last : LastSet steps ⟨.error, false, true⟩ :=
    ⟨[], .named "Error", .opens, [], rfl, by decide +kernel, rfl, nofun⟩
  obtain ⟨set, _, configurations⟩ := configure_replaces steps
  -- The second configuration means none of the six levels, so that it might as well not be there.
  have meansNone : ∀ level, ¬ (Level.Choice.named "chatty").Means level := by
    intro level
    cases level <;> decide +kernel
  have same := ((configurations (.named "chatty") true .unnamed).2 meansNone).2 []
  rw [List.append_nil] at same
  rw [same]
  exact ⟨last, set _ last⟩

/-- With a file that cannot be opened, what the last configuration to succeed has set is lost all the same. -/
theorem configure_replaces_unopened :
    let first : Step := .configure (.named "error") false .opens
    let second : Step := .configure (.named "debug") false .fails
    let journal := afterAll [first]
    let later := afterAll [first, second]
    (({} : Journal).configure (.named "error") false .opens).1 = .ok () ∧
      journal.handlers = [.console false, .file] ∧ journal.level = .error ∧
      (journal.configure (.named "debug") false .fails).1 = .error .file ∧
      later.handlers = [.console false] ∧ later.level = .debug := by
  decide +kernel

end Journal

end Issuance
