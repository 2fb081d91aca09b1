import Mathlib.Data.List.Induction
import Issuance.Log.Journal

/-! Which events reach the log file: those that pass both the level in force and the one their logger has kept. -/

namespace Issuance.Journal

/-- What a configuration sets; a file counts only if it has been opened. -/
structure Setting where
  level : Level
  json : Bool
  toFile : Bool
  deriving DecidableEq

/-- The handlers of a setting. -/
def Setting.handlers (setting : Setting) : List Handler :=
  .console setting.json :: if setting.toFile then [.file] else []

/-- The bound that a setting puts on the package's loggers; a level that sets none leaves them the ambient one. -/
def Setting.bound (setting : Setting) : Level :=
  if setting.level = .notSet then ambientLevel else setting.level

/-- What can be done with a journal. -/
inductive Step where
  | configure (choice : Level.Choice) (json : Bool) (file : LogFile)
  /-- An event is logged through the logger known by a key, which is made with a name and a context if it is new. -/
  | log (key name : String) (context : Members) (level : Level) (event : Value) (fields : Members)

namespace Step

/-- What a step sets; a configuration with an unknown level sets nothing. -/
def setting? : Step → Option Setting
  | .configure choice json file => choice.resolve.toOption.map (⟨·, json, file = .opens⟩)
  | .log .. => none

/-- Whether a step uses the logger known by a key. -/
def uses (step : Step) (key : String) : Bool :=
  match step with
  | .configure .. => false
  | .log other .. => other == key

/-- The journal after a step. -/
def apply (journal : Journal) : Step → Journal
  | .configure choice json file => (journal.configure choice json file).2
  | .log key name context level event fields => journal.log key { name, context } level event fields

end Step

/-- The journal after a run of steps, from the start of the program. -/
def afterAll (steps : List Step) : Journal := steps.foldl Step.apply {}

/-- The setting that is in force: the last one made. -/
def inForce? (steps : List Step) : Option Setting := (steps.filterMap Step.setting?).getLast?

/-- The levels in force at the uses of a logger, one for each use behind a configuration. -/
def levelsAtUse (key : String) (before : List Step) : List Step → List Level
  | [] => []
  | step :: rest =>
    (if step.uses key then ((inForce? before).map (·.level)).toList else []) ++
      levelsAtUse key (before ++ [step]) rest

/-- The level a logger has kept from its first use behind a configuration. -/
def kept? (steps : List Step) (key : String) : Option Level := (levelsAtUse key [] steps).head?

/-- What is set passes an event on to the file: the bound in force does, and so does the level the logger has kept. -/
def Reaches (steps : List Step) (key : String) (level : Level) : Prop :=
  ∃ setting, inForce? steps = some setting ∧ setting.toFile ∧
    level.passes setting.bound ∧ ∀ kept ∈ kept? steps key, level.passes kept

/-- The logger a run knows by a key, or else the new one with a name and a context. -/
def loggerOf (steps : List Step) (key name : String) (context : Members) : Logger :=
  ((afterAll steps).loggers.lookup key).getD { name, context }

/-- What passes the bound of a setting passes its level, which is no greater. -/
theorem Setting.passes_of_bound {setting : Setting} {level : Level}
    (passes : level.passes setting.bound) : level.passes setting.level := by
  unfold bound at passes
  split at passes
  next unset =>
    rw [unset]
    exact decide_eq_true (Nat.zero_le _)
  next => exact passes

theorem inForce?_append_singleton (steps : List Step) (step : Step) :
    inForce? (steps ++ [step]) = step.setting?.or (inForce? steps) := by
  unfold inForce?
  rw [List.filterMap_append]
  cases set : step.setting? with
  | none =>
    have nothing : [step].filterMap Step.setting? = [] := by simp [set]
    rw [nothing, List.append_nil, Option.none_or]
  | some setting =>
    have only : [step].filterMap Step.setting? = [setting] := by simp [set]
    rw [only, List.getLast?_concat, Option.some_or]

theorem levelsAtUse_append_singleton (key : String) (before steps : List Step) (step : Step) :
    levelsAtUse key before (steps ++ [step]) = levelsAtUse key before steps ++
      if step.uses key then ((inForce? (before ++ steps)).map (·.level)).toList else [] := by
  -- The induction is on the steps in front, and what comes before them grows with each.
  induction steps generalizing before with
  | nil => simp [levelsAtUse]
  | cons first rest ih =>
    show _ ++ levelsAtUse key (before ++ [first]) (rest ++ [step]) = _
    rw [ih, List.append_assoc before, List.singleton_append, ← List.append_assoc]
    rfl

/-- A logger keeps the level in force at a use, unless it has kept one before. -/
theorem kept?_append_singleton (steps : List Step) (step : Step) (key : String) :
    kept? (steps ++ [step]) key = (kept? steps key).or
      (if step.uses key then (inForce? steps).map (·.level) else none) := by
  unfold kept?
  rw [levelsAtUse_append_singleton, List.head?_append, List.nil_append]
  congr 1
  split
  · cases inForce? steps <;> rfl
  · rfl

/-- Leaving out what is known by one key makes no difference to the lookup of another. -/
theorem lookup_without {key other : String} (differ : other ≠ key)
    (loggers : List (String × Logger)) :
    (loggers.filter (·.1 != key)).lookup other = loggers.lookup other := by
  induction loggers with
  | nil => rfl
  | cons first rest ih =>
    by_cases own : first.1 = key
    · -- What is left out is passed over by the lookup as well.
      have passedOver : (other == first.1) = false := beq_false_of_ne (own ▸ differ)
      rw [List.filter_cons_of_neg (by simp [own]), List.lookup_cons, passedOver]
      exact ih
    · rw [List.filter_cons_of_pos (by simp [own]), List.lookup_cons, List.lookup_cons, ih]

/-- Keeping a logger changes what is known by its own key, and nothing else. -/
theorem lookup_keep (journal : Journal) (key other : String) (logger : Logger) :
    (journal.keep key logger).loggers.lookup other =
      if other = key then some logger else journal.loggers.lookup other := by
  show ((key, logger) :: journal.loggers.filter (·.1 != key)).lookup other = _
  rw [List.lookup_cons]
  by_cases same : other = key
  · simp [same]
  · rw [if_neg same, beq_false_of_ne same]
    exact lookup_without same journal.loggers

/-- What the handlers of a setting write goes to the file at most once, and leaves the settings alone. -/
theorem write_eq {journal : Journal} {setting? : Option Setting}
    (handlers : journal.handlers = (setting?.map Setting.handlers).getD []) (found : Members) :
    ∃ console, journal.write found = { journal with
      console
      file := if setting?.any (·.toFile) then journal.file.map (· ++ [found])
        else journal.file } := by
  rcases journal with ⟨_, _, _, _, _, console⟩
  cases handlers
  rcases setting? with _ | ⟨_, json, toFile⟩
  · exact ⟨console, rfl⟩
  · cases json <;> cases toFile <;> exact ⟨_, rfl⟩

/-- A journal stands as a run of steps leaves it. -/
structure Follows (journal : Journal) (steps : List Step) : Prop where
  filter : journal.filter = (inForce? steps).map (·.level)
  level : journal.level = ((inForce? steps).map (·.level)).getD .notSet
  handlers : journal.handlers = ((inForce? steps).map Setting.handlers).getD []
  opened : (inForce? steps).any (·.toFile) → journal.file.isSome
  kept : ∀ key, (journal.loggers.lookup key).bind (·.filter) = kept? steps key

namespace Follows

variable {journal : Journal} {steps : List Step}

/-- At the start nothing is set, and no logger has kept anything. -/
theorem start : Follows {} [] := ⟨rfl, rfl, rfl, nofun, fun _ => rfl⟩

/-- A journal follows every run that comes to the same setting and the same kept levels. -/
theorem of_same {later : List Step} (follows : Follows journal steps)
    (set : inForce? later = inForce? steps) (kept : ∀ key, kept? later key = kept? steps key) :
    Follows journal later where
  filter := set ▸ follows.filter
  level := set ▸ follows.level
  handlers := set ▸ follows.handlers
  opened := set ▸ follows.opened
  kept := fun key => (follows.kept key).trans (kept key).symm

theorem configured (follows : Follows journal steps) (choice : Level.Choice) (json : Bool)
    (file : LogFile) :
    Follows ((Step.configure choice json file).apply journal)
      (steps ++ [.configure choice json file]) := by
  -- A configuration is no use of a logger, so that none keeps anything by it.
  have kept : ∀ key, kept? (steps ++ [.configure choice json file]) key = kept? steps key := by
    intro key
    rw [kept?_append_singleton]
    exact Option.or_none
  have set := inForce?_append_singleton steps (.configure choice json file)
  cases resolved : choice.resolve with
  | error unknown =>
    -- An unknown level sets nothing, and the journal stays as it is.
    have nothing : (Step.configure choice json file).setting? = none := by
      simp [Step.setting?, resolved, Except.toOption]
    have same : (Step.configure choice json file).apply journal = journal := by
      simp [Step.apply, configure, resolved]
    rw [nothing, Option.none_or] at set
    rw [same]
    exact follows.of_same set kept
  | ok level =>
    have setting : (Step.configure choice json file).setting? =
        some ⟨level, json, file = .opens⟩ := by
      simp [Step.setting?, resolved, Except.toOption]
    have changed : (Step.configure choice json file).apply journal = { journal with
        level
        filter := some level
        handlers := Setting.handlers ⟨level, json, file = .opens⟩
        file := if file = .opens then some (journal.file.getD []) else journal.file } := by
      -- Whatever becomes of the file, the console is there before it.
      cases file <;> simp [Step.apply, configure, resolved, Setting.handlers]
    rw [setting, Option.some_or] at set
    rw [changed]
    refine ⟨by rw [set]; rfl, by rw [set]; rfl, by rw [set]; rfl, ?_, ?_⟩
    · rw [set]
      intro opened
      rw [if_pos (of_decide_eq_true opened)]
      rfl
    · exact fun key => (follows.kept key).trans (kept key).symm

/-- Keeping a logger with its level is all that a use makes of a journal, but for what is written. -/
theorem kept_use (follows : Follows journal steps) (key name : String) (context : Members)
    (level : Level) (event : Value) (fields : Members) :
    Follows (journal.ready key { name, context }).2
      (steps ++ [.log key name context level event fields]) := by
  have set := inForce?_append_singleton steps (.log key name context level event fields)
  refine ⟨?_, ?_, ?_, ?_, fun other => ?_⟩
  · rw [set]; exact follows.filter
  · rw [set]; exact follows.level
  · rw [set]; exact follows.handlers
  · rw [set]; exact follows.opened
  · show (List.lookup other (journal.keep key _).loggers).bind _ = _
    rw [lookup_keep, kept?_append_singleton]
    by_cases same : other = key
    · -- The logger has its level from before, or takes over the one in force.
      subst same
      have uses : (Step.log other name context level event fields).uses other = true :=
        beq_self_eq_true other
      rw [if_pos rfl, if_pos uses, ← follows.kept other, ← follows.filter]
      cases journal.loggers.lookup other <;> rfl
    · have unused : (Step.log key name context level event fields).uses other = false :=
        beq_false_of_ne (Ne.symm same)
      rw [if_neg same, unused, ← follows.kept other]
      exact Option.or_none.symm

/-- What is written changes neither the setting nor what is kept. -/
theorem written (follows : Follows journal steps) (found : Members) :
    Follows (journal.write found) steps := by
  obtain ⟨console, same⟩ := write_eq follows.handlers found
  rw [same]
  refine ⟨follows.filter, follows.level, follows.handlers, fun toFile => ?_, follows.kept⟩
  rw [if_pos toFile]
  exact Option.isSome_map.trans (follows.opened toFile)

/-- A step leads a journal on along the run. -/
theorem step (follows : Follows journal steps) (step : Step) :
    Follows (step.apply journal) (steps ++ [step]) := by
  cases step with
  | configure choice json file => exact follows.configured choice json file
  | log key name context level event fields =>
    have used := follows.kept_use key name context level event fields
    show Follows (ite _ _ _) _
    split
    · exact used.written _
    · exact used

/-- After every run of steps the journal stands as the run leaves it. -/
theorem run (steps : List Step) : Follows (afterAll steps) steps := by
  -- The induction is from the end: what a whole run leaves is a step behind what a shorter one does.
  induction steps using List.reverseRecOn with
  | nil => exact start
  | append_singleton steps last ih =>
    have applied : afterAll (steps ++ [last]) = last.apply (afterAll steps) := List.foldl_append
    rw [applied]
    exact ih.step last

end Follows

/-- A logger that is readied has the level it has kept, or else the one in force. -/
theorem Follows.filter_ready {journal : Journal} {steps : List Step}
    (follows : Follows journal steps) (key : String) {fresh : Logger}
    (unkept : fresh.filter = none) : (journal.ready key fresh).1.filter =
      (kept? steps key).or ((inForce? steps).map (·.level)) := by
  rw [← follows.kept key, ← follows.filter]
  show ((journal.loggers.lookup key).getD fresh).filter.or journal.filter = _
  cases journal.loggers.lookup key with
  | none => rw [Option.getD_none, unkept]; rfl
  | some logger => rfl

/-- Both bounds let an event pass exactly where what is set passes it on, as long as there is a file. -/
theorem Follows.reaches_iff {journal : Journal} {steps : List Step}
    (follows : Follows journal steps) (key : String) {fresh : Logger}
    (unkept : fresh.filter = none) (level : Level) :
    (((journal.ready key fresh).1.filter.any level.passes &&
        level.passes journal.effectiveLevel) = true ∧
      (inForce? steps).any (·.toFile) = true) ↔ Reaches steps key level := by
  unfold Reaches effectiveLevel
  rw [follows.filter_ready key unkept, follows.level]
  cases inForce? steps with
  | none => simp
  | some setting =>
    show ((Option.or _ (some setting.level)).any level.passes && level.passes setting.bound) =
      true ∧ setting.toFile = true ↔ _
    cases kept? steps key with
    | none =>
      -- A logger that has kept nothing takes over the level in force, which is below the bound.
      have below : level.passes setting.bound → level.passes setting.level :=
        Setting.passes_of_bound
      simp only [Option.none_or, Option.any_some, Bool.and_eq_true, Option.some.injEq,
        exists_eq_left', Option.mem_def, reduceCtorEq, false_implies, implies_true, and_true]
      tauto
    | some kept =>
      simp only [Option.some_or, Option.any_some, Bool.and_eq_true, Option.some.injEq,
        exists_eq_left', Option.mem_def, forall_eq']
      tauto

/-- An event that is logged is written to the file exactly if what is set passes it on. -/
theorem file_log (steps : List Step) (key name : String) (context : Members) (level : Level)
    (event : Value) (fields : Members) :
    let journal := afterAll steps
    let logger := loggerOf steps key name context
    let later := afterAll (steps ++ [.log key name context level event fields])
    (isPackageLogger logger.name ∧ Reaches steps key level → later.file =
      some (journal.file.getD [] ++ [record logger level event fields])) ∧
    (¬ (isPackageLogger logger.name ∧ Reaches steps key level) → later.file = journal.file) := by
  intro journal logger later
  have follows : Follows journal steps := Follows.run steps
  have reaches := follows.reaches_iff key (rfl : ({ name, context } : Logger).filter = none) level
  have setting : inForce? (steps ++ [.log key name context level event fields]) = inForce? steps :=
    inForce?_append_singleton ..
  -- To ready the logger changes neither its name and context nor the file.
  have file : (journal.ready key { name, context }).2.file = journal.file := rfl
  have logged : later = if (journal.ready key { name, context }).1.filter.any level.passes &&
      (isPackageLogger logger.name && level.passes journal.effectiveLevel)
    then (journal.ready key { name, context }).2.write (record logger level event fields)
    else (journal.ready key { name, context }).2 := List.foldl_append
  obtain ⟨console, written⟩ := write_eq
    (follows.kept_use key name context level event fields).handlers
    (record logger level event fields)
  rw [setting] at written
  rw [logged]
  generalize journal.ready key { name, context } = readied at reaches file written ⊢
  constructor
  · rintro ⟨package, reached⟩
    obtain ⟨passes, opened⟩ := reaches.mpr reached
    obtain ⟨lines, found⟩ := Option.isSome_iff_exists.mp (follows.opened opened)
    rw [package, Bool.true_and, if_pos passes, written]
    show (if (inForce? steps).any (·.toFile) then readied.2.file.map _ else _) = _
    rw [if_pos opened, file, found]
    rfl
  · intro held
    split
    next passes =>
      -- What passes without reaching the file is written by the console alone.
      have unopened : ¬ (inForce? steps).any (·.toFile) = true := by
        intro opened
        simp only [Bool.and_eq_true] at passes
        obtain ⟨kept, package, bounded⟩ := passes
        exact held ⟨package, reaches.mp ⟨by rw [kept, bounded]; rfl, opened⟩⟩
      rw [written]
      show (if (inForce? steps).any (·.toFile) then _ else readied.2.file) = _
      rw [if_neg unopened, file]
    next => exact file

/-- The setting in force has a file, and events of the level are meant to be in it. -/
def SetToFile (steps : List Step) (level : Level) : Prop :=
  ∃ setting, inForce? steps = some setting ∧ setting.toFile ∧ level.passes setting.level

/-- What reaches the file is meant to be in it. -/
theorem setToFile_of_reaches {steps : List Step} {key : String} {level : Level}
    (reaches : Reaches steps key level) : SetToFile steps level := by
  obtain ⟨setting, set, toFile, bounded, _⟩ := reaches
  exact ⟨setting, set, toFile, Setting.passes_of_bound bounded⟩

/-- The setting in force decides alone exactly if it sets a bound, and none of a greater level was kept. -/
theorem reaches_iff_setToFile_iff (steps : List Step) (key : String) :
    (∀ level, level ≠ .notSet → (Reaches steps key level ↔ SetToFile steps level)) ↔
      ∀ setting, inForce? steps = some setting → setting.toFile →
        setting.level ≠ .notSet ∧ ∀ kept ∈ kept? steps key, kept.number ≤ setting.level.number := by
  constructor
  · intro alike setting set toFile
    have bounds : setting.level ≠ .notSet := by
      intro unset
      -- A debug event is meant to be in the file, but the ambient bound keeps it out.
      have meant : SetToFile steps .debug := ⟨setting, set, toFile, by rw [unset]; decide⟩
      obtain ⟨other, same, _, bounded, _⟩ := (alike .debug (by decide)).mpr meant
      cases set.symm.trans same
      rw [Setting.bound, if_pos unset] at bounded
      exact absurd bounded (by decide)
    refine ⟨bounds, fun kept found => ?_⟩
    -- The least event that is meant to be in the file has to pass the kept level as well.
    have meant : SetToFile steps setting.level :=
      ⟨setting, set, toFile, decide_eq_true (Nat.le_refl _)⟩
    obtain ⟨_, _, _, _, passes⟩ := (alike setting.level bounds).mpr meant
    exact of_decide_eq_true (passes kept found)
  · intro steady level _
    refine ⟨setToFile_of_reaches, ?_⟩
    rintro ⟨setting, set, toFile, passes⟩
    obtain ⟨bounds, below⟩ := steady setting set toFile
    refine ⟨setting, set, toFile, ?_, fun kept found => ?_⟩
    · rw [Setting.bound, if_neg bounds]
      exact passes
    · exact decide_eq_true (Nat.le_trans (below kept found) (of_decide_eq_true passes))

/--
An event is written to the file exactly if its logger is the package's and what is set passes it on.

A logger keeps the level of its first use, which counts on when another level is set.
So the setting in force decides alone only if it is no looser than that, and sets a bound at all.
-/
theorem log_reaches_file (steps : List Step) (key name : String) (context : Members) :
    let journal := afterAll steps
    let logger := loggerOf steps key name context
    (∀ level event fields,
      let later := afterAll (steps ++ [.log key name context level event fields])
      (isPackageLogger logger.name ∧ Reaches steps key level → later.file =
        some (journal.file.getD [] ++ [record logger level event fields])) ∧
      (¬ (isPackageLogger logger.name ∧ Reaches steps key level) → later.file = journal.file)) ∧
    ((∀ level, level ≠ .notSet → (Reaches steps key level ↔ SetToFile steps level)) ↔
      ∀ setting, inForce? steps = some setting → setting.toFile →
        setting.level ≠ .notSet ∧ ∀ kept ∈ kept? steps key, kept.number ≤ setting.level.number) :=
  ⟨file_log steps key name context, reaches_iff_setToFile_iff steps key⟩

/-- A logger that was used while errors alone were wanted does not write what is wanted later. -/
theorem log_misses_file :
    let name := "cert_lifecycle_manager.client"
    let steps : List Step := [.configure (.named "error") false .opens,
      .log name name [] .error (.text "first") [], .configure (.named "debug") false .opens]
    isPackageLogger (loggerOf steps name name []).name ∧ SetToFile steps .info ∧
      (afterAll (steps ++ [.log name name [] .info (.text "second") []])).file =
        (afterAll steps).file := by
  intro name steps
  have set : inForce? steps = some ⟨.debug, false, true⟩ := by decide +kernel
  have kept : kept? steps name = some .error := by decide +kernel
  refine ⟨by decide +kernel, ⟨_, set, rfl, by decide⟩, ?_⟩
  refine ((log_reaches_file steps name name []).1 .info (.text "second") []).2 ?_
  rintro ⟨_, _, _, _, _, passes⟩
  exact absurd (passes .error kept) (by decide)

end Issuance.Journal
