import TypeMismatch.Proofs.Settings.Accepted
import TypeMismatch.Session

/-!
# Levels over any number of calls

A program that uses the library calls it in any order: it asks for loggers (`get_logger`), sets the
log up again (`configure`), sets a level (`set_level`), applies settings (`apply_telemetry`), loads
settings (`load_configuration`), describes a mismatch (`describe_type_mismatch`), runs the command
(`main`).  Of these only a level that is set changes the level of the package, and none changes that
of the root (`Call.levels_perform`), so after any calls the package has the level that was set last
(`Call.levels_performAll`).  A call that stops before, because a level is unknown, settings are
refused or the command is misused, sets none.

A logger that is asked for comes into being without a level, and what stands above it only notes it
or becomes its parent; so no logger has another level afterwards (`Places.ownLevel_create`).
-/

namespace TypeMismatch

/-! ### Loggers that come into being -/

/-- The own level at a place; a gap has none. -/
def Place.level : Place → Level
  | .logger l => l.level
  | .gap _ => .unset

namespace Places

/-- The own level under a name. -/
def ownLevel (places : Places) (name : String) : Level :=
  ((places.get? name).map Place.level).getD .unset

variable (places : Places) (name : String)

/-- The own level of a name is that of its logger, and unset without one. -/
theorem ownLevel_eq : places.ownLevel name = ((places.logger? name).map (·.level)).getD .unset := by
  unfold ownLevel logger?
  rcases places.get? name with _ | (l | below) <;> rfl

/-- What is put under a name gives that name its level and leaves the others. -/
theorem ownLevel_put (place : Place) (other : String) :
    (places.put name place).ownLevel other =
      if other = name then place.level else places.ownLevel other := by
  unfold ownLevel
  rw [get?_put]
  split <;> rfl

/-- What has the level that stood under its name changes no level. -/
theorem ownLevel_put_same {place : Place} (h : place.level = places.ownLevel name)
    (other : String) : (places.put name place).ownLevel other = places.ownLevel other := by
  rw [ownLevel_put]
  split
  · rename_i same
    rw [h, same]
  · rfl

/-- Changes that keep names and levels keep own levels. -/
theorem ownLevel_map {f : String × Place → String × Place}
    (hf : ∀ e, (f e).1 = e.1 ∧ (f e).2.level = e.2.level) (other : String) :
    ownLevel (places.map f) other = places.ownLevel other := by
  unfold ownLevel
  induction places with
  | nil => rfl
  | cons e places ih =>
    obtain ⟨key, level⟩ := hf e
    rw [List.map_cons, get?_cons, get?_cons, key]
    split
    · exact congrArg (fun l => (some l).getD .unset) level
    · exact ih

/-- A logger that was just made has no level. -/
theorem ownLevel_append_fresh (other : String) :
    ownLevel (places ++ [(name, .logger (.fresh none))]) other = places.ownLevel other := by
  unfold ownLevel
  rw [get?_append]
  cases places.get? other with
  | some place => rfl
  | none =>
    rw [Option.none_or]
    split <;> rfl

/-- Getting another logger above them leaves the levels of loggers. -/
theorem ownLevel_adopt (below : List String) (other : String) :
    (places.adopt name below).ownLevel other = places.ownLevel other := by
  refine places.ownLevel_map (fun e => ?_) other
  obtain ⟨key, l | gap⟩ := e
  · dsimp only
    split <;> exact ⟨rfl, rfl⟩
  · exact ⟨rfl, rfl⟩

/-- A name is noted in gaps only. -/
theorem ownLevel_note (names : List String) (other : String) :
    (places.note name names).1.ownLevel other = places.ownLevel other := by
  induction names generalizing places with
  | nil => rfl
  | cons above names ih =>
    -- Under the next name stands no logger, and none is put there.
    have unset {found : Option Place} (hp : places.get? above = found)
        (hf : (found.map Place.level).getD .unset = .unset) (noted : List String) :
        (places.put above (.gap noted)).ownLevel other = places.ownLevel other := by
      refine places.ownLevel_put_same above ?_ other
      rw [ownLevel, hp, hf]
      rfl
    unfold note
    split
    · rfl
    · rename_i hp
      rw [ih, unset hp rfl]
    · rename_i hp
      rw [ih, unset hp rfl]

/-- **A logger that is asked for changes no level**, its own nor another's. -/
theorem ownLevel_create (other : String) :
    (places.create name).ownLevel other = places.ownLevel other := by
  -- Where there was no logger yet, the new one has no level either.
  have fresh {ps : Places} {parent : Option String} (hn : ps.ownLevel name = .unset) :
      (ps.put name (.logger (.fresh parent))).ownLevel other = ps.ownLevel other := by
    refine ps.ownLevel_put_same name ?_ other
    rw [hn]
    rfl
  unfold create
  split
  · rfl
  · rename_i below hp
    have hn : places.ownLevel name = .unset := by rw [ownLevel, hp]; rfl
    rw [fresh, ownLevel_note, ownLevel_adopt]
    rw [ownLevel_note, ownLevel_adopt, hn]
  · rename_i hp
    have hn : places.ownLevel name = .unset := by rw [ownLevel, hp]; rfl
    rw [fresh, ownLevel_note, ownLevel_append_fresh]
    rw [ownLevel_note, ownLevel_append_fresh, hn]

end Places

namespace Log

/-- The own levels of the package's logger and of the root. -/
def levels (log : Log) : Level × Level := (log.level, log.root)

/-- The level of the package is the own level of its name. -/
theorem level_eq_ownLevel (log : Log) : log.level = log.places.ownLevel package :=
  (log.places.ownLevel_eq package).symm

/-- Setting the level of the package leaves that of the root. -/
theorem levels_withLevel (log : Log) (level : Level) :
    (log.withLevel level).levels = (level, log.root) :=
  congrArg (·, log.root) (log.level_withLevel level)

/-- A level is set from a value in upper case. -/
theorem setLevel_eq (log : Log) (v : Value) :
    log.setLevel v = (levelOf (upper v)).map log.withLevel := by
  unfold setLevel
  cases levelOf (upper v) <;> rfl

/-- **Asking for a logger changes no level.** -/
theorem levels_ask {log after : Log} {name : Value} {s : String} {effective : Level}
    (h : log.ask name = .ok (after, s, effective)) : after.levels = log.levels := by
  unfold ask at h
  split at h
  · rename_i s'
    split at h
    · cases h
    · split at h
      · cases h
        rfl
      · cases h
        rw [levels, levels, level_eq_ownLevel, level_eq_ownLevel, Places.ownLevel_create]
  · cases h

end Log

/-! ### Calls -/

/-- A call of the library or of its command. -/
inductive Call where
  /-- Asks for a logger. -/
  | askLogger (name : Value)
  /-- Sets the log up without force. -/
  | setUp
  | setLevel (level : Value)
  /-- Sets the level that settings name. -/
  | apply (settings : Settings)
  /-- Sets the level of settings that were put together without a check, and may hold any value. -/
  | applyUnchecked (level : Value)
  /-- Loads settings from a file, or the standard ones, with overrides. -/
  | load (files : Files) (path : Option String) (overrides : Value)
  /-- Describes a mismatch between names that are read under a limit. -/
  | describe (settings : Settings) (limit : Limit) (expected actual : Value)
  /-- Runs the command. -/
  | run (machine : Machine) (files : Files) (words : List String)

/-- What a call leaves: the log, and the failure that leaves the call, or else the outcome if the
command was run. -/
structure Called where
  log : Log
  result : Except Failure (Option Outcome)

namespace Call

/-- Sets a level, which may be refused. -/
def performLevel (log : Log) (level : Value) : Called :=
  match log.setLevel level with
  | .ok log => ⟨log, .ok none⟩
  | .error e => ⟨log, .error (.log e)⟩

/-- Carries out a call. The log has been set up, so setting it up without force has no effect. -/
def perform (log : Log) : Call → Called
  | .askLogger name =>
    match log.ask name with
    | .ok (log, _) => ⟨log, .ok none⟩
    | .error e => ⟨log, .error (.log e)⟩
  | .setUp => ⟨log, .ok none⟩
  | .setLevel level => performLevel log level
  | .apply settings => ⟨Command.applyLevel log settings, .ok none⟩
  | .applyUnchecked .null => ⟨log, .ok none⟩
  | .applyUnchecked level => performLevel log level
  | .load files path overrides =>
    ⟨log, (Command.loadSettings files path overrides).map fun _ => none⟩
  | .describe settings limit expected actual =>
    let t := (TypeMismatch.describe settings limit expected actual).shownIn log
    ⟨log, t.result.map fun _ => none⟩
  | .run machine files words =>
    let ran := Command.run machine files log words
    ⟨ran.log, ran.result.map some⟩

/-- The log after calls, one after another, whether or not they fail. -/
def performAll (log : Log) (calls : List Call) : Log :=
  calls.foldl (fun log call => (call.perform log).log) log

/-- The level that settings name, in the spelling in which they keep it. -/
def named? (settings : Settings) : Option Value := settings.logLevel.map fun name => .text name.text

/-- The settings with which the command carries out its task, if it gets so far. -/
def settings? (machine : Machine) (files : Files) (words : List String) : Option Settings :=
  (Command.readRequest (words.map some)).toOption.bind fun r =>
    (Command.settingsOf machine files r).toOption

/-- What a call gives to the package as its level, once all that comes before has succeeded. -/
def given? : Call → Option Value
  | .setLevel level => some level
  | .apply settings => named? settings
  | .applyUnchecked .null => none
  | .applyUnchecked level => some level
  | .run machine files words => (settings? machine files words).bind named?
  | _ => none

/-- The level that a call sets successfully. -/
def level? (call : Call) : Option Level :=
  call.given?.bind fun v => (Log.levelOf (Log.upper v)).toOption

/-- A call stops before a level is set: it fails, or the command is misused, or its settings are
refused. -/
inductive Stops (log : Log) : Call → Prop
  | failed {call e} : (∀ machine files words, call ≠ .run machine files words) →
      (call.perform log).result = .error e → Stops log call
  | misused {machine files words stop} : Command.readRequest (words.map some) = .error stop →
      Stops log (.run machine files words)
  | refused {machine files words r e} : Command.readRequest (words.map some) = .ok r →
      Command.settingsOf machine files r = .error e → Stops log (.run machine files words)

/-! ### One call -/

/-- Asking for a logger leaves the levels. -/
theorem levels_askLogger (log : Log) (name : Value) :
    (perform log (.askLogger name)).log.levels = log.levels := by
  rw [perform]
  split
  · rename_i after asked
    exact Log.levels_ask asked
  · rfl

/-- A call that sets a level sets it if the value is one, and leaves that of the root. -/
theorem levels_performLevel (log : Log) (v : Value) :
    (performLevel log v).log.levels =
      ((Log.levelOf (Log.upper v)).toOption.getD log.level, log.root) := by
  unfold performLevel
  rw [log.setLevel_eq]
  cases Log.levelOf (Log.upper v) with
  | error e => rfl
  | ok level => exact log.levels_withLevel level

/-- Settings set the level that they name. -/
theorem levels_applyLevel (log : Log) (s : Settings) :
    (Command.applyLevel log s).levels =
      (((named? s).bind fun v => (Log.levelOf (Log.upper v)).toOption).getD log.level,
        log.root) := by
  rcases Settings.applyLevel_eq log s with ⟨none, same⟩ | ⟨name, named, set, -⟩
  · rw [same, named?, none]
    rfl
  · have applied := levels_performLevel log (.text name.text)
    rw [performLevel, set] at applied
    rw [named?, named]
    exact applied

/-- The command applies its settings before the task, and nothing later changes the log. -/
theorem log_run (log : Log) (machine : Machine) (files : Files) (words : List String) :
    (Command.run machine files log words).log =
      (settings? machine files words).elim log (Command.applyLevel log) := by
  unfold Command.run Command.runWords settings?
  cases Command.readRequest (words.map some) with
  | error stop => rfl
  | ok r =>
    dsimp only [Except.toOption, Option.bind_some]
    unfold Command.carryOut
    cases Command.settingsOf machine files r <;> rfl

/-- The command sets the level that its settings name, and leaves that of the root. -/
theorem levels_run (log : Log) (machine : Machine) (files : Files) (words : List String) :
    (Command.run machine files log words).log.levels =
      ((level? (.run machine files words)).getD log.level, log.root) := by
  rw [log_run, level?, given?]
  cases settings? machine files words with
  | none => rfl
  | some s => exact levels_applyLevel log s

/-- **What one call does to the levels.**  The package has the level that the call sets, or the one
it had; the root has the one it had. -/
theorem levels_perform (log : Log) (call : Call) :
    (call.perform log).log.levels = (call.level?.getD log.level, log.root) := by
  cases call with
  | askLogger name => exact levels_askLogger log name
  | setUp => rfl
  | setLevel level => exact levels_performLevel log level
  | apply settings => exact levels_applyLevel log settings
  | applyUnchecked level =>
    cases level with
    | null => rfl
    | _ => exact levels_performLevel log _
  | load files path overrides => rfl
  | describe settings limit expected actual => rfl
  | run machine files words => exact levels_run log machine files words

/-- A level that is refused is not set. -/
theorem level?_of_performLevel {log : Log} {v : Value} {e : Failure}
    (h : (performLevel log v).result = .error e) :
    (Log.levelOf (Log.upper v)).toOption = none := by
  unfold performLevel at h
  rw [log.setLevel_eq] at h
  cases hl : Log.levelOf (Log.upper v) with
  | error fault => rfl
  | ok level =>
    rw [hl] at h
    cases h

/-- A call that stops sets no level. -/
theorem Stops.level? {log : Log} {call : Call} (h : call.Stops log) : call.level? = none := by
  cases h with
  | misused misuse =>
    rw [Call.level?, given?, settings?, misuse]
    rfl
  | refused request refusal =>
    rw [Call.level?, given?, settings?, request]
    dsimp only [Except.toOption, Option.bind_some]
    rw [refusal]
    rfl
  | failed notRun failure =>
    cases call with
    | setLevel level => exact level?_of_performLevel failure
    | apply settings => cases failure
    | applyUnchecked level =>
      cases level with
      | null => cases failure
      | _ => exact level?_of_performLevel failure
    | run machine files words => exact absurd rfl (notRun machine files words)
    | _ => rfl

/-! ### Any calls -/

/-- **After any calls the package has the level that was set last**, or the one that it had, and the
root the one that it had.  Whatever the log is, a call that stops before a level is set sets none
and leaves both levels. -/
theorem levels_performAll (log : Log) (calls : List Call) :
    (performAll log calls).levels =
        (((calls.filterMap level?).getLast?).getD log.level, log.root) ∧
      ∀ (found : Log) (call : Call), call.Stops found →
        call.level? = none ∧ (call.perform found).log.levels = found.levels := by
  constructor
  · induction calls generalizing log with
    | nil => rfl
    | cons call calls ih =>
      obtain ⟨level, root⟩ := Prod.mk.inj (levels_perform log call)
      rw [performAll, List.foldl_cons]
      refine (ih (call.perform log).log).trans ?_
      rw [level, root, List.filterMap_cons]
      cases hc : call.level? with
      | none => rfl
      | some n => rw [List.getLast?_cons, Option.getD_some, Option.getD_some]
  · intro found call stops
    refine ⟨stops.level?, ?_⟩
    rw [levels_perform, stops.level?]
    rfl

/-- Calls of which the second sets a level, the third is refused for another setting after it has
named a level, and the last one is misused. -/
def trial : List Call :=
  [.setLevel "verbose",
   .run .ample .none ["--set", "telemetry.log_level=debug", "compare", "A", "B["],
   .run .ample .none
     ["--set", "telemetry.log_level=error", "--set", "parser.max_depth=0", "parse", "A"],
   .askLogger "typediff.reporting.cli",
   .run .ample .none ["--set", "telemetry.log_level=error", "parse"]]

set_option maxRecDepth 4000 in
/-- The package keeps the one level that was set, and a level that is not known leaves what was
found. -/
theorem levels_performAll_trial :
    (performAll .standard trial).levels = (.number 10, .number 30) ∧
      Stops .standard (.setLevel "verbose") ∧
      (perform .standard (.setLevel "verbose")).log.levels = (.number 20, .number 30) := by
  obtain ⟨levels, stopped⟩ := levels_performAll .standard trial
  have set : (trial.filterMap level?).getLast? = some (.number 10) := by decide +kernel
  have stops : Stops .standard (.setLevel "verbose") := .failed nofun rfl
  refine ⟨?_, stops, ?_⟩
  · rw [levels, set]
    rfl
  · exact (stopped _ _ stops).2.trans (by decide +kernel)

end Call

/-! ### Sessions -/

/-- The call that a step of a session makes of the log, if it makes one. -/
def Step.call? (s : Session) : Step → Option Call
  | .load path overrides => some (.load s.files (path.filter (!·.isEmpty)) overrides)
  | .describe expected actual => some (.describe s.settings s.settings.limit expected actual)
  | .apply => some (.apply s.settings)
  | .setLevel level => some (.setLevel level)
  | .setUp _ _ _ => some .setUp
  | .askLogger name => some (.askLogger name)
  | .merge _ | .place _ | .resolve _ _ => none

/-- The session after settings were given has the same log. -/
theorem Session.log_withSettings (s : Session) (settings : Except Failure Settings) :
    (s.withSettings settings).session.log = s.log := by
  cases settings <;> rfl

/-- **A step of a session leaves the levels as the call that it makes**, unless it forces a
set-up. -/
theorem Session.levels_step (s : Session) {step : Step}
    (unforced : ∀ level file, step ≠ .setUp true level file) :
    (s.step step).session.log.levels =
      (((step.call? s).bind Call.level?).getD s.log.level, s.log.root) := by
  have same {after : Session} (h : after.log = s.log) :
      after.log.levels = (s.log.level, s.log.root) := by rw [h]; rfl
  cases step with
  | load path overrides => exact same (s.log_withSettings _)
  | merge overrides => exact same (s.log_withSettings _)
  | place items => exact same (s.log_withSettings _)
  | describe expected actual => rfl
  | resolve expected actual => rfl
  | apply => exact Call.levels_applyLevel s.log s.settings
  | setLevel level =>
    refine Eq.trans ?_ (Call.levels_perform s.log (.setLevel level))
    rw [Session.step, Call.perform, Call.performLevel]
    cases s.log.setLevel level <;> rfl
  | setUp force level file =>
    cases force with
    | true => exact absurd rfl (unforced level file)
    | false =>
      refine same ?_
      rw [Session.step]
      split
      · rfl
      · dsimp only
        split <;> rfl
  | askLogger name =>
    refine Eq.trans ?_ (Call.levels_perform s.log (.askLogger name))
    rw [Session.step, Call.perform]
    rcases s.log.ask name with e | ⟨log, name, level⟩ <;> rfl

end TypeMismatch
