import TypeMismatch.Command.Request
import TypeMismatch.Json
import TypeMismatch.Name.Outline
import TypeMismatch.Report

/-!
# Running the command

A request is carried out with the settings of its configuration file, the standard ones if it names
none, and its overrides laid over them; a level among the settings is set before the task. What the
task prints goes to the output, and the exit status is zero. A name that cannot be read ends the
command with status two, a failure of the overrides, the settings or the file with status one; both
are told on the error output. Misuse has status two, help status zero.

Some failures are not foreseen, and leave the command as failures: an infinite nesting limit, a
literal that needs a key and has none, an operand, an override or a file name that is no text, a
handler that fails on a record, and some faults within documents.

Source: `main` (`run`), with `load_configuration` (`loadSettings`), `_cmd_compare`, `_cmd_parse` and
`_cmd_shorten` (`perform`), and the `main` of the pair command (`runPair`).
-/

namespace TypeMismatch

/-- What a command leaves behind: its exit status and what it printed. -/
structure Outcome where
  exit : Nat
  output : String
  errors : String
deriving DecidableEq, Repr

namespace Command

/-- The overrides of a request as a mapping. They are taken in order, up to one that is lost. -/
def overridesOf (machine : Machine) (items : List (Option String)) : Except Failure Mapping := do
  let kept := (items.takeWhile (·.isSome)).filterMap id
  let m ← (Override.mapping machine kept).mapError .override
  if kept.length = items.length then pure m else .error .lostOverride

/-- The settings of a configuration file; without one, the standard settings. -/
def baseSettings (files : Files) : Option String → Except Failure Settings
  | none => .ok .standard
  | some path => do
    let m ← (files.configuration (Path.ofString path)).mapError .file
    (Settings.ofMapping m).mapError .settings

/-- The settings of a configuration file with overrides laid over them. -/
def loadSettings (files : Files) (path : Option String) (overrides : Value) :
    Except Failure Settings := do
  let s ← baseSettings files path
  (s.mergeValue overrides).mapError .settings

/-- The settings of a request. -/
def settingsOf (machine : Machine) (files : Files) (r : Request) : Except Failure Settings := do
  let overrides ← overridesOf machine r.overrides
  match r.config with
  | none => loadSettings files none (.map overrides)
  | some none => .error .lostPath
  | some (some path) => loadSettings files (some path) (.map overrides)

/-- The log with the level that the settings name. -/
def applyLevel (log : Log) (s : Settings) : Log :=
  match s.logLevel with
  | some name => log.withLevel (.ofName name)
  | none => log

/-- An operand as a value; a lost one is no text. -/
def operandValue : Option String → Value
  | some s => s
  | none => .list []

/-- Lines in one text. -/
def textOfLines (lines : List (List Char)) : String := String.ofList (['\n'].intercalate lines)

/-- What is printed for a signature. -/
def printedSignature (s : Signature) (json : Bool) : Except Failure String :=
  if json then .ok (Json.ofValue s.toValue) else (s.outline.map textOfLines).mapError .path

/-- What a task prints. -/
def perform (settings : Settings) : Task → Traced (List Text.Point)
  | .compare expected actual json => do
    let r ← describe settings settings.limit (operandValue expected) (operandValue actual)
    pure (if json then Text.points (Json.ofValue (.map r.toMapping)) else r.render)
  | .parse name json => do
    let s ← readName settings.limit (operandValue name)
    let text ← Traced.of (printedSignature s json)
    pure (Text.points text)
  | .shorten name => do
    let s ← shortenName settings.limit (operandValue name)
    pure (Text.points s)

/-- Whether a fault of a document is one that the command tells. -/
def isForeseen : Document.DocumentFault → Bool
  | .codeTooLong | .powerTooLarge | .notMoment | .notText | .notTruth _ | .emptyNumber => false
  | _ => true

/-- Whether a failure is told on the error output, and not left to the caller. -/
def isTold : Failure → Bool
  | .notText _ => false
  | .override (.notKey _) | .override .tooLarge | .override (.exhausted _) => false
  | .settings .infiniteLimit => false
  | .path .noLastSegment => false
  | .file (.contents fault) => isForeseen fault
  | .lostOverride => false
  | .lostPath => false
  | .log (.outlet fault) => fault.isForeseen
  | _ => true

/-- The outcome of a failure that is told. -/
def failed (e : Failure) : Except Failure Outcome :=
  match e with
  | .name _ _ => .ok ⟨2, "", "[typediff] parse error: " ++ e.message ++ "\n"⟩
  | e =>
    if isTold e then .ok ⟨1, "", "[typediff] error: " ++ e.message ++ "\n"⟩ else .error e

/-- The outcome of printing a result, or of its failure. What has no encoding is not printed. -/
def printed : Except Failure (List Text.Point) → Except Failure Outcome
  | .ok text =>
    match Text.encode text with
    | .ok text => .ok ⟨0, text ++ "\n", ""⟩
    | .error fault => failed (.unprintable fault)
  | .error e => failed e

/-- The outcome of reading that ended early. -/
def stopped : Stop → Outcome
  | .help text => ⟨0, text, ""⟩
  | .misuse message => ⟨2, "", message⟩

/-- What running a command leaves: the log, the records that were shown, and the outcome. -/
structure Ran where
  log : Log
  records : List Record
  result : Except Failure Outcome

/-- Carries out a request. -/
def carryOut (machine : Machine) (files : Files) (log : Log) (r : Request) : Ran :=
  match settingsOf machine files r with
  | .error e => ⟨log, [], failed e⟩
  | .ok settings =>
    let log := applyLevel log settings
    let t := (perform settings r.task).shownIn log
    ⟨log, t.records, printed t.result⟩

/-- Runs the command on words, of which some may have been lost. -/
def runWords (machine : Machine) (files : Files) (log : Log) (words : List (Option String)) :
    Ran :=
  match readRequest words with
  | .error stop => ⟨log, [], .ok (stopped stop)⟩
  | .ok r => carryOut machine files log r

/-- Runs the command. -/
def run (machine : Machine) (files : Files) (log : Log) (words : List String) : Ran :=
  runWords machine files log (words.map some)

/-- The words with which the command compares what another command line asks for. -/
def pairWords (r : Reading) : List (Option String) :=
  (match (valuesOf r "--config").getLast?.join with
    | some path => [some "--config", some (Path.ofString path).text]
    | none => [])
    ++ (valuesOf r "--set").flatMap (fun item => [some "--set", item])
    ++ [some "compare", operandAt r 0, operandAt r 1]
    ++ (if isGiven r "--json" then [some "--json"] else [])

/-- Runs the command that only compares: it passes what it is given on to the other command. -/
def runPair (machine : Machine) (files : Files) (log : Log) (words : List String) : Ran :=
  match (do
    let r ← pairSpec.read (words.map some)
    refuseExtras pairSpec r.extras
    pure r) with
  | .error stop => ⟨log, [], .ok (stopped stop)⟩
  | .ok r => runWords machine files log (pairWords r)

end Command
end TypeMismatch
