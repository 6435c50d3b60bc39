import TypeMismatch.Level
import TypeMismatch.Log.Fault
import TypeMismatch.Log.Hierarchy
import TypeMismatch.Text.Upper
import TypeMismatch.Value.Written

/-!
# The log

A logger has a level of its own, zero if it has none, and then the nearest logger above it that has
one decides; this is its effective level. The root is above all.

The package's loggers are `typediff` and those below it. A record is shown if its logger is not
disabled, if its level is at least the effective one, and if every logger from its own up to
`typediff` passes records on. A record that tells of something without a name has no message; it is
offered all the same, but showing it is a fault.

Source: `set_level` (`Log.setLevel`), `get_logger` (`Log.ask`), and how a logger shows the records
of `debug` and `warning`.
-/

namespace TypeMismatch

/-- A record offered to the log. Its message is written when the record is handled, which fails if
the record tells of something that has no name. -/
structure Record where
  level : LevelName
  logger : String
  told : Except PathFault String
deriving Repr

/-- The message of a record that has one. -/
def Record.message (r : Record) : String := r.told.toOption.getD ""

/-- Why a record has no message. -/
def Record.fault? (r : Record) : Option PathFault :=
  match r.told with
  | .ok _ => none
  | .error e => some e

/-- The state of the log: the level of the root, whether records that reach the root are handled,
those of its handlers that fail, and what stands under the names of loggers. -/
structure Log where
  root : Level
  isHandled : Bool
  outlets : List Outlet
  places : Places
deriving DecidableEq, Repr

namespace Log

/-- The logger above all others of the package. -/
def package : String := "typediff"

/-- The logger that tells of faults in a set-up. -/
def setupLogger : String := "typediff.telemetry"

/-- The log with the state of a logger changed. -/
def changeLogger (log : Log) (name : String) (f : Logger → Logger) : Log :=
  { log with places := log.places.change name f }

/-- The package's loggers below the first. -/
def packageLoggers : List String :=
  ["typediff.reporting", setupLogger, "typediff.typenames.parser", "typediff.typenames.resolver"]

/-- The log before anything has been set: the package shows what informs, the root what warns. -/
def standard : Log :=
  let places := packageLoggers.foldl Places.create (Places.create [] package)
  let log : Log := ⟨.ofName .warning, true, [], places⟩
  log.changeLogger package fun l => { l with level := .ofName .info }

/-- The log with another level for the package. -/
def withLevel (log : Log) (level : Level) : Log :=
  log.changeLogger package fun l => { l with level := level }

/-- The own level of the package's logger. -/
def level (log : Log) : Level := ((log.places.logger? package).map (·.level)).getD .unset

/-- The level from which on the root shows records. -/
def effectiveRoot (log : Log) : Level := if log.root.amount = 0 then .unset else log.root

/-- The level from which on a logger shows records. -/
def effective (log : Log) (name : String) : Level :=
  match (log.places.lineage name).find? fun e => e.2.level.amount != 0 with
  | some e => e.2.level
  | none => log.effectiveRoot

/-- Whether a logger is disabled. -/
def isDisabled (log : Log) (name : String) : Bool :=
  (log.places.logger? name).any (·.disabled)

/-- Whether a logger passes its records on up to the package's logger. -/
def reaches (log : Log) (name : String) : Bool :=
  ((log.places.lineage name).takeWhile (·.1 != package)).all (·.2.propagates)

/-- Whether a logger takes a record. -/
def takes (log : Log) (r : Record) : Bool :=
  !log.isDisabled r.logger && (log.effective r.logger).amount ≤ r.level.number

/-- Whether a record is shown. -/
def shows (log : Log) (r : Record) : Bool := log.takes r && log.reaches r.logger

/-- The handlers that fail on records of a logger up to the package's, and those on records that
are passed on to the root. -/
def outletsOf (log : Log) (name : String) : List Outlet × List Outlet :=
  let lineage := log.places.lineage name
  let passing := lineage.takeWhile (·.2.propagates)
  let path := lineage.take (passing.length + 1)
  (path.flatMap (·.2.outlets), if passing.length = lineage.length then log.outlets else [])

/-- The fault over a record, and whether the record is shown before. -/
def fault? (log : Log) (r : Record) : Option (Bool × OutletFault) :=
  if log.takes r then
    let (near, far) := log.outletsOf r.logger
    match near.findSome? (·.fault? r.level.number) with
    | some f => some (false, f)
    | none =>
      match if log.reaches r.logger then r.fault? else none with
      | some e => some (false, .noMessage e)
      | none => (far.findSome? (·.fault? r.level.number)).map fun f => (true, f)
  else none

/-- The records that are shown up to the first on which a handler fails, and that fault. -/
def shownUntilFault (log : Log) : List Record → List Record × Option OutletFault
  | [] => ([], none)
  | r :: rs =>
    match log.fault? r with
    | some (isShown, f) => (if isShown then [r] else [], some f)
    | none =>
      let (shown, f) := log.shownUntilFault rs
      (if log.shows r then r :: shown else shown, f)

/-- The level that a value stands for, a name in upper case. -/
def levelOf (v : Value) : Except LogFault Level :=
  match v with
  | .text s =>
    match LevelName.ofText? s with
    | some name => .ok (.ofName name)
    | none => .error (.unknownLevel v.written)
  | .broken _ => .error (.unknownLevel v.written)
  | .int n => .ok (.number n)
  | .bool b => .ok (.truth b)
  | v => .error (if v.isWritable then .notLevel v.written else .notWritable)

/-- A value whose letters are in upper case if it is text. -/
def upper (v : Value) : Value :=
  match v with
  | .text s => .text (String.ofList (Text.upper s.toList))
  | .broken t => .ofPoints (t.points.flatMap fun
    | .char c => Text.pointsOf (Text.upperChar c)
    | p => [p])
  | v => v

/-- The log with another level for the package; a name of a level may be given in any case. -/
def setLevel (log : Log) (v : Value) : Except LogFault Log := do
  let n ← levelOf (upper v)
  pure (log.withLevel n)

/-- The log in which the logger of a name exists, with the name and the effective level. The root
has a name too. -/
def ask (log : Log) (name : Value) : Except LogFault (Log × String × Level) :=
  match name with
  | .text s =>
    if s.isEmpty then .error .noName
    else if s = Logger.rootName then .ok (log, s, log.effectiveRoot)
    else
      let log := { log with places := log.places.create s }
      .ok (log, s, log.effective s)
  | _ => .error .noName

end Log
end TypeMismatch
