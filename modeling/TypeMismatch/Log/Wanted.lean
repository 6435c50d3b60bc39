import TypeMismatch.Files.Configuration
import TypeMismatch.Log.Setup

/-!
# The set-up that is asked for

There is a standard set-up; a file that the environment names may replace it key by key, and a level
from the environment replaces that of the package's logger. Then the loggers, and what is said of
the package's, may also come as pairs of a key and a value. A malformed file is warned of, and the
root is set to show warnings if nothing handles what reaches it.

Source: `_load_config` (`wantedEntries`), `_apply_level_override` (`withWantedLevel`) and
`configure` (`setUpFrom`). What a file may replace is `_ALLOWED_KEYS` (`isReplaceable`), and the
standard set-up is `_DEFAULT_CONFIG` (`standardEntries`).
-/

namespace TypeMismatch

/-- What the environment asks of the log: a level for the package, and a file to set the log up. -/
structure LogEnvironment where
  level : Option String
  file : Option String
deriving DecidableEq, Repr

/-- The environment that asks for nothing. -/
def LogEnvironment.none : LogEnvironment := ⟨.none, .none⟩

namespace Setup

/-- The keys that a file may replace. -/
def keys : List Value :=
  ["version", "disable_existing_loggers", "formatters", "handlers", "root", "loggers"]

/-- The standard set-up. -/
def standardEntries : Mapping :=
  [("version", .int 1),
   ("disable_existing_loggers", .bool false),
   ("formatters", .map [("standard", .map
     [("format", "%(asctime)s | %(levelname)-8s | %(name)s | %(message)s")])]),
   ("handlers", .map [("console", .map
     [("class", "logging.StreamHandler"), ("stream", "ext://sys.stderr"),
      ("formatter", "standard")])]),
   ("root", .map [("level", "WARNING"), ("handlers", .list ["console"])]),
   ("loggers", .map [("typediff", .map [("level", "INFO")])])]

/-- Whether a key can be replaced. -/
def isReplaceable (k : Value) : Bool := keys.any (·.isSameKey k)

/-- The set-up that a file asks for: its keys replace those of the standard one. -/
def ofFile (m : Mapping) : Mapping :=
  Mapping.putAll standardEntries (m.filter fun e => isReplaceable e.1)

/-- The mapping that a section stands for. -/
def mappingOf (v : Value) : Except LogFault Mapping := (Mapping.ofValue v).mapError .notSection

/-- The set-up with a level for the package's logger. -/
def withLevel (setup : Mapping) (level : String) : Except LogFault Mapping := do
  let loggers ← mappingOf (Mapping.getD setup "loggers" .null)
  let logger ← mappingOf (Mapping.getD loggers Log.package .null)
  let logger := Mapping.put logger "level" (Log.upper level)
  pure (Mapping.put setup "loggers" (.map (Mapping.put loggers Log.package (.map logger))))

end Setup

namespace Log

/-- The warning over a file that cannot be read as a document. -/
def fileWarning (path : Path) : Record :=
  ⟨.warning, setupLogger, .ok ("failed to parse " ++ path.text ++ ": malformed document")⟩

/-- The log that can tell of a malformed file. -/
def readyToWarn (log : Log) : Log :=
  let log := { log with places := log.places.create setupLogger }
  if log.isHandled then log else { log with root := .ofName .warning, isHandled := true }

/-- The set-up that the environment asks for, with the path of its file if that is malformed. A file
that is missing, malformed or no mapping leaves the standard set-up. -/
def wantedEntries (env : LogEnvironment) (files : Files) :
    Except FileFault (Mapping × Option Path) :=
  match env.file.filter (!·.isEmpty) with
  | none => .ok (Setup.standardEntries, none)
  | some file =>
    match files.document (Path.ofString file) with
    | .ok (.map m) => .ok (Setup.ofFile m, none)
    | .ok _ => .ok (Setup.standardEntries, none)
    | .error (.missing _) => .ok (Setup.standardEntries, none)
    | .error (.malformed path) => .ok (Setup.standardEntries, some path)
    | .error fault => .error fault

/-- The set-up with the level that the environment asks for. -/
def withWantedLevel (env : LogEnvironment) (entries : Mapping) : Except LogFault Mapping :=
  match env.level.filter (!·.isEmpty) with
  | some level => Setup.withLevel entries level
  | none => .ok entries

/-- The log set up as a set-up and the level of the environment say, the files after that, and the
fault that ended it early. -/
def setUpWith (log : Log) (env : LogEnvironment) (files : Files) (entries : Mapping) :
    Log × Files × Option LogFault :=
  match withWantedLevel env entries with
  | .error fault => (log, files, some fault)
  | .ok entries => log.setUp files entries

/-- What setting up the log leaves: the log, the files, the warnings that were shown, and a
fault. -/
structure SetUp where
  log : Log
  files : Files
  warnings : List Record
  fault : Option LogFault

/-- The log set up as the environment asks. -/
def setUpFrom (log : Log) (env : LogEnvironment) (files : Files) : Except FileFault SetUp := do
  let (entries, malformed) ← wantedEntries env files
  let log := if malformed.isSome then log.readyToWarn else log
  match log.shownUntilFault ((malformed.map fileWarning).toList) with
  | (warnings, some fault) => pure ⟨log, files, warnings, some (.outlet fault)⟩
  | (warnings, none) =>
    let (log, files, fault) := log.setUpWith env files entries
    pure ⟨log, files, warnings, fault⟩

end Log
end TypeMismatch
