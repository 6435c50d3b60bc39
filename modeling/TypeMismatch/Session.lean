import TypeMismatch.Command.Run
import TypeMismatch.Log.Wanted

/-!
# Sessions

A session holds the current settings, the log, and what the environment asks of the log. Each step
either has an answer or fails; a step that fails leaves the settings as they were. Setting up the
log has an effect only if it is forced, because the log has been set up before.

Source: `load_configuration`, `apply_telemetry`, `build_resolver`, `describe_type_mismatch`,
`configure`, `set_level` and `get_logger`, one after the other.
-/

namespace TypeMismatch

/-- The state of a session. -/
structure Session where
  machine : Machine
  files : Files
  settings : Settings
  log : Log
  environment : LogEnvironment

/-- A step of a session. -/
inductive Step where
  /-- Loads settings from a file, or the standard ones, with overrides. -/
  | load (path : Option String) (overrides : Value)
  /-- Lays overrides over the settings. -/
  | merge (overrides : Value)
  /-- Lays overrides that are written as items over the settings. -/
  | place (items : List String)
  | describe (expected actual : Value)
  | resolve (expected actual : Operand)
  /-- Sets the level that the settings name. -/
  | apply
  | setLevel (level : Value)
  /-- Sets the log up, after changes to the environment. -/
  | setUp (force : Bool) (level file : Option (Option String))
  | askLogger (name : Value)

/-- The answer to a step. -/
inductive Answer where
  | settings (s : Settings)
  | report (r : Report)
  | pair (a b : String)
  | logger (name : String) (level : Level)
  | done

/-- What a step leaves: the session, the records that were shown, and the answer. -/
structure Stepped where
  session : Session
  records : List Record
  result : Except Failure Answer

namespace Session

/-- The start of a session. -/
def start (machine : Machine) (files : Files) : Session :=
  ⟨machine, files, .standard, .standard, .none⟩

/-- The session after a step that gives new settings, if they are accepted. -/
def withSettings (s : Session) : Except Failure Settings → Stepped
  | .ok settings => ⟨{ s with settings := settings }, [], .ok (.settings settings)⟩
  | .error e => ⟨s, [], .error e⟩

/-- The session after a step that only answers. -/
def answering {α : Type} (s : Session) (t : Traced α) (f : α → Answer) : Stepped :=
  let t := t.shownIn s.log
  ⟨s, t.records, t.result.map f⟩

/-- The session after setting up the log. -/
def setUpLog (s : Session) : Stepped :=
  match s.log.setUpFrom s.environment s.files with
  | .error e => ⟨s, [], .error (.file e)⟩
  | .ok r =>
    ⟨{ s with log := r.log, files := r.files }, r.warnings,
      match r.fault with
      | some f => .error (.log f)
      | none => .ok .done⟩

/-- Whether a change of the environment is refused: no value there has a zero character. -/
def isRefused (change : Option (Option String)) : Bool :=
  change.join.any fun value => value.toList.contains '\x00'

/-- The session after a step. -/
def step (s : Session) : Step → Stepped
  | .load path overrides =>
    s.withSettings (Command.loadSettings s.files (path.filter (!·.isEmpty)) overrides)
  | .merge overrides => s.withSettings ((s.settings.mergeValue overrides).mapError .settings)
  | .place items =>
    s.withSettings (do
      let overrides ← Command.overridesOf s.machine (items.map some)
      (s.settings.merge overrides).mapError .settings)
  | .describe expected actual =>
    s.answering (TypeMismatch.describe s.settings s.settings.limit expected actual) .report
  | .resolve expected actual =>
    s.answering (TypeMismatch.resolve s.settings.limit expected actual) fun p => .pair p.1 p.2
  | .apply => ⟨{ s with log := Command.applyLevel s.log s.settings }, [], .ok .done⟩
  | .setLevel level =>
    match s.log.setLevel level with
    | .ok log => ⟨{ s with log := log }, [], .ok .done⟩
    | .error e => ⟨s, [], .error (.log e)⟩
  | .setUp force level file =>
    if isRefused level then ⟨s, [], .error .zeroInEnvironment⟩
    else
      let s := { s with environment.level := level.getD s.environment.level }
      if isRefused file then ⟨s, [], .error .zeroInEnvironment⟩
      else
        let s := { s with environment.file := file.getD s.environment.file }
        if force then s.setUpLog else ⟨s, [], .ok .done⟩
  | .askLogger name =>
    match s.log.ask name with
    | .ok (log, name, level) => ⟨{ s with log := log }, [], .ok (.logger name level)⟩
    | .error e => ⟨s, [], .error (.log e)⟩

end Session
end TypeMismatch
