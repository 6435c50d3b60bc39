import TypeMismatch.Log.Kind
import TypeMismatch.Log.Outlet
import TypeMismatch.Value.Mapping

/-!
# How what is made fails on records

A record is offered to a handler if its level is at least the handler's. Then the handler is asked
whether its filters let it pass, is locked, writes it, and is unlocked. Something else that stands
for a handler has no level. Most handlers fail in silence when they write. What is seen is a handler
that cannot write, a limit that is no number, a target that fails on what it is passed, a file that
cannot be opened, and an attribute that was set and does not suit what is asked of it.

Source: the handlers of `dictConfig`, what `handle` and `emit` raise in them.
-/

namespace TypeMismatch
namespace Kind

/-- The fault of a limit that is no number. -/
def limitFault? (v : Value) : Option OutletFault :=
  if isNumber v then none else some (.noLimit (Opening.kindWithin v))

/-- The smallest integer that is not below a number. -/
def ceiling? (v : Value) : Option Int :=
  match v.amount? with
  | some (.quotient n d) => some (-(-n / (d : Int)))
  | _ => none

/-- Whether a handler with a limit passes on every record at once. -/
def isFullWithOne (capacity : Value) : Bool := (ceiling? capacity).any (· ≤ 1)

/-- How a handler that gathers records for a target fails, and from which level on. What it has
gathered is passed on when there is enough of it, or when a record has a certain level. -/
def gatheringFault? (args : Arguments) (target : Option OutletFault) : Option (Int × OutletFault) :=
  match args.value? "capacity" .null, args.value? "flushLevel" (.int LevelName.error.number) with
  | some capacity, some level =>
    match limitFault? capacity with
    | some fault => some (0, fault)
    | none =>
      if isFullWithOne capacity then target.map fun fault => (0, fault)
      else
        match limitFault? level with
        | some fault => some (0, fault)
        | none => target.bind fun fault => (ceiling? level).map fun n => (n, fault)
  | _, _ => none

/-- The arguments with the attributes that replace some of them. -/
def replaced (args : Arguments) (attributes : Mapping) : Arguments :=
  ["mode", "encoding", "errors"].foldl (fun args key =>
    match Mapping.get? attributes (.text key) with
    | some v => args.put key v
    | none => args) args

/-- How a handler fails whose file is opened with the first record, unless it was given a stream.
One that watches its file looks for it first. -/
def delayedFault? (files : Files) (isWatching : Bool) (args : Arguments) (attributes : Mapping) :
    Option OutletFault :=
  match (args.get "delay").isGiven, Mapping.getD attributes "stream" .null,
      args.value? "filename" .null with
  | true, .null, some (.text name) =>
    let watched := if isWatching then Opening.systemFault? files name ['a'] else none
    (watched.filter Opening.preventsLooking).or
      (Opening.fault? "a" files name (replaced args attributes))
  | _, _, _ => none

/-- How a handler of a kind fails on records, and from which level on, given how its target does. -/
def ownFault? (k : Kind) (files : Files) (args : Arguments) (attributes : Mapping)
    (target : Option OutletFault) : Option (Int × OutletFault) :=
  if k.name = "logging.Handler" then some (0, .cannotWrite)
  else if k.name = "logging.handlers.BufferingHandler" then
    ((args.value? "capacity" .null).bind limitFault?).map fun fault => (0, fault)
  else if k.name = gatherer then gatheringFault? args target
  else if ["logging.FileHandler", watcher].contains k.name then
    (delayedFault? files (k.name = watcher) args attributes).map fun fault => (0, fault)
  else none

/-- How a handler fails whose filters are replaced. -/
def filtersFault? (filters : Value) : Option OutletFault :=
  match filters.items? with
  | none => some (.notFilters filters.kind)
  | some vs => vs.head?.map fun v => .notCallable v.kind

/-- How what is made fails because of attributes that were set, once it handles a record: the
attributes in the order in which they are needed. -/
def attributeFault? (k : Kind) (attributes : Mapping) : Option OutletFault :=
  let attribute? (key : String) := Mapping.get? attributes (.text key)
  let uncalled? (key : String) := (attribute? key).map fun v => OutletFault.notCallable v.kind
  let locked? := (attribute? "lock").bind fun v =>
    if v.isGiven then some (OutletFault.noAttribute v.kind "acquire") else none
  (uncalled? "handle").or <|
    if !k.isHandler then some (.noAttribute k.className "handle")
    else if k.name = "logging.NullHandler" then none
    else
      (uncalled? "filter").or <| ((attribute? "filters").bind filtersFault?).or <|
        (uncalled? "acquire").or <| locked?.or <| (uncalled? "release").or (uncalled? "emit")

/-- How what is made with a level fails on records, if it does. -/
def outlet? (k : Kind) (files : Files) (args : Arguments) (level : Int) (attributes : Mapping)
    (target : Option OutletFault) : Option Outlet :=
  let fault? : Option (Int × OutletFault) :=
    match k.attributeFault? attributes with
    | some fault => some (0, fault)
    | none => k.ownFault? files args attributes target
  match Mapping.get? attributes "level" with
  | some v =>
    if !isNumber v then some ⟨none, .noLimit v.kind⟩
    else
      fault?.bind fun (n, fault) => (ceiling? v).map fun level => ⟨some (max level n), fault⟩
  | none =>
    if !k.isHandler then some ⟨none, .noAttribute k.className "level"⟩
    else fault?.map fun (n, fault) => ⟨some (max level n), fault⟩

end Kind
end TypeMismatch
