import TypeMismatch.Log.Handler

/-!
# Setting up the log

The log is set up from a mapping with the keys `version`, `disable_existing_loggers`, `formatters`,
`handlers`, `root` and `loggers`. The version must be one. The formatters are made in order, the
handlers in the order of their names, then those that were too early, then the loggers are set up in
order, and then the root; the first of them that cannot be set up ends it: what was set before
stays. A section that is a list, a set or a text, and not a mapping, has parts, but none that can be
set up.

Setting a logger up sets its level if one is given, then its handlers, enables it, and sets whether
it passes records on. Of the loggers that are not named, those below a named one lose their level
and pass records on; the others are disabled or enabled, as the set-up says. A name that does not
count as given is the root's, as is `root`.

Source: `dictConfig` (`carryOut`), which `configure` calls.
-/

namespace TypeMismatch

/-- The fault over a part with a name. -/
def LogFault.over (fault : String → LogFault) (name : Value) : LogFault :=
  match name with
  | .tuple _ => .notTold
  | name => if name.isWritable then fault name.written else .notWritable

namespace Log

/-- The log with another level for a logger, or for the root. -/
def setLevelOf (log : Log) (level : Level) : Option String → Log
  | some name => log.changeLogger name fun l => { l with level := level }
  | none => { log with root := level }

/-- The log in which a logger, or the root, has no handlers. -/
def clearHandlers (log : Log) : Option String → Log
  | some name => log.changeLogger name fun l => { l with outlets := [] }
  | none => { log with isHandled := false, outlets := [] }

/-- The log in which a logger, or the root, has one handler more. -/
def addHandler (log : Log) (m : Made) : Option String → Log
  | some name => log.changeLogger name fun l => { l with outlets := l.outlets ++ m.outlet.toList }
  | none => { log with isHandled := true, outlets := log.outlets ++ m.outlet.toList }

/-- The logger that a name stands for, nothing for the root, if it stands for one at all. -/
def loggerNamed? (name : Value) : Option (Option String) :=
  if !name.isGiven then some none
  else
    match name with
    | .text s => some (if s = Logger.rootName then none else some s)
    | _ => none

/-- The log after the loggers that existed and are not named have been dealt with. -/
def setUpOthers (log : Log) (existing named : List String) (disable : Bool) : Log :=
  let above := named.filter existing.contains
  let isBelow (name : String) :=
    above.any fun a => (a.toList ++ ['.']).isPrefixOf name.toList
  { log with
    places := log.places.map fun e =>
      match e with
      | (name, .logger l) =>
        if !existing.contains name || named.contains name then e
        else if isBelow name then
          (name, .logger { l with level := .unset, propagates := true, outlets := [] })
        else (name, .logger { l with disabled := disable })
      | e => e }

end Log

namespace Making

/-- The mapping that a section has under a name. -/
def described (place : Found) (name : Value) : Making Found :=
  match place with
  | .part n => do
    if ((← get).part n).isMap then (Lookup.entry n name).made else fail
  | _ => fail

/-- Makes something of the part that a section has under a name, and puts it in its place. -/
def makeIn (place : Found) (make : Nat → Making Made) (name : Value) : Making Unit := do
  match place, ← described place name with
  | .part n, .part c =>
    if !((← get).part c).isMap then fail
    let m ← make c
    modify (·.put n name (.made m))
  | _, _ => fail

/-- Gives handlers to a logger, or to the root. -/
def addHandlers (logger : Option String) : List Value → Making Unit
  | [] => pure ()
  | name :: names => do
    match ← named "handlers" (.value name) with
    | .made m => modify (·.changeLog (·.addHandler m logger))
    | _ => fail
    addHandlers logger names

/-- Sets up what a logger and the root have in common: the level and the handlers. -/
def setUpCommon (n : Nat) (logger : Option String) : Making Unit := do
  match ← level (← read n "level" .null) with
  | some level => modify (·.changeLog (·.setLevelOf level logger))
  | none => pure ()
  modify (·.changeLog (·.clearHandlers logger))
  if ← has n "handlers" then
    match ← (Lookup.entry n "handlers").made with
    | .part p => addHandlers logger ((← get).names p)
    | .plain (.value v) =>
      if v.isGiven then
        match v.items? with
        | some names => addHandlers logger names
        | none => fail
    | _ => fail
  if (← read n "filters" .null).isGiven then fail

/-- Sets up the logger that a section describes under a name. -/
def setUpLogger (place : Found) (name : Value) : Making Unit := do
  let config ← described place name
  let logger ← match Log.loggerNamed? name with
    | some logger => pure logger
    | none => fail
  match logger with
  | some name =>
    modify (·.changeLog fun log => { log with places := log.places.create name })
  | none => pure ()
  match config with
  | .part n =>
    if !((← get).part n).isMap then fail
    setUpCommon n logger
    let change (f : Logger → Logger) : Making Unit :=
      match logger with
      | some name => modify (·.changeLog (·.changeLogger name f))
      | none => pure ()
    change fun l => { l with disabled := false }
    match ← read n "propagate" .null with
    | .value .null => pure ()
    | r => change fun l => { l with propagates := r.isGiven }
  | _ => fail

end Making

/-- The setting up of the log, which changes it and may fail. -/
abbrev Setting := ExceptT LogFault (StateM Setup)

namespace Setting

/-- Something that is made for a part; if that fails, the fault is over the part. -/
def orFault (fault : LogFault) (m : Making Unit) : Setting Unit := ExceptT.adapt (fun _ => fault) m

/-- What is under a key of the set-up, or else a new mapping. -/
def sectionAt (key : String) : Setting Found := do
  if !(← get).has Setup.whole key then
    modify fun s =>
      let (s, n) := s.add default
      s.put Setup.whole key (.part n)
  ExceptT.adapt .reference (Lookup.entry Setup.whole key)

/-- The names of the parts of a section. -/
def namesIn (place : Found) : Setting (List Value) := do
  match place with
  | .part n => return (← get).names n
  | .plain (.value v) =>
    match v.items? with
    | some names => pure names
    | none => throw (.notSection (.noItems v.kind))
  | .plain (.thing _ kind) =>
    throw (if kind = Referent.streamKind then .notReadable else .notSection (.noItems kind))
  | .made m => throw (.notSection (.noItems m.kind))

/-- The version must be supported. -/
def checkVersion : Setting Unit := do
  let found ← ExceptT.adapt .reference (Lookup.entry Setup.whole "version")
  match (← get).seen found with
  | .value v =>
    if v.key? ≠ (Value.int 1).key? then
      throw (if v.isWritable then .version (String.ofList (Text.told v.shown)) else .notWritable)
  | .thing name kind => throw (.version (Referent.shownThing name kind))

/-- Makes the formatters. -/
def makeFormatters : Setting Unit := do
  let place ← sectionAt "formatters"
  (← namesIn place).forM fun name =>
    orFault (.over .formatter name) (Making.makeIn place Making.formatter name)

/-- Makes the handler with a name, and tells whether it is to be made later. -/
def tryHandler (place : Found) (name : Value) : Setting Bool := do
  match ← (Making.makeIn place Making.handler name).run with
  | .ok () => pure false
  | .error cause => if Making.isEarly cause then pure true else throw (.over .handler name)

/-- Makes the handlers in the order of their names, and then those that were too early. -/
def makeHandlers : Setting Unit := do
  let place ← sectionAt "handlers"
  match Value.sort (← namesIn place) with
  | .error f => throw (.noOrder f.left f.right)
  | .ok names =>
    (← names.filterM (tryHandler place)).forM fun name =>
      orFault (.over .handler name) (Making.makeIn place Making.handler name)

/-- Sets up the loggers, and then those that are not named. -/
def setUpLoggers (disable : Bool) : Setting Unit := do
  let existing := (← get).log.places.map (·.1)
  let place ← sectionAt "loggers"
  let names ← namesIn place
  names.forM fun name => orFault (.over .logger name) (Making.setUpLogger place name)
  let texts := names.filterMap fun name => match name with
    | .text s => some s
    | _ => none
  modify (·.changeLog (·.setUpOthers existing texts disable))

/-- Sets up the root if the set-up gives one. -/
def setUpRoot : Setting Unit := do
  if (← get).has Setup.whole "root" then
    match ← ExceptT.adapt .reference (Lookup.entry Setup.whole "root") with
    | .part n =>
      let p := (← get).part n
      if !p.entries.isEmpty then
        orFault .root (if p.isMap then Making.setUpCommon n none else Making.fail)
    | f => if ((← get).seen f).isGiven then throw .root

/-- Carries a set-up out. -/
def carryOut : Setting Unit := do
  checkVersion
  let disable ← ExceptT.adapt .reference
    (Lookup.take Setup.whole "disable_existing_loggers" (.bool true))
  let isDisabling := ((← get).seen disable).isGiven
  makeFormatters
  let _ ← sectionAt "filters"
  makeHandlers
  setUpLoggers isDisabling
  setUpRoot

end Setting

namespace Log

/-- The log and the files after a set-up has been carried out, and the fault that ended it early. -/
def setUp (log : Log) (files : Files) (entries : Mapping) : Log × Files × Option LogFault :=
  match Setting.carryOut (Setup.start entries files log) with
  | (.ok (), s) => (s.log, s.files, none)
  | (.error fault, s) => (s.log, s.files, some fault)

end Log
end TypeMismatch
