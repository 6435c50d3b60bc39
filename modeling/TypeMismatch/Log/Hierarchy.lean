import TypeMismatch.Level
import TypeMismatch.Log.Outlet

/-!
# The hierarchy of loggers

Loggers have names with points in them, and one logger may be above another if its name is the
beginning of the other's up to a point. The names that may be above a name are found from its end:
the next one ends before the last point that has a character between itself and the end, so an empty
part of a name hides what is before it.

A name has a logger once it has been asked for. Its parent is the nearest logger above it, or the
root. Names above it that have no logger are gaps, which note what is below them; when a gap becomes
a logger, it becomes the parent of those below it whose parent's name does not begin with its own.

Source: `getLogger`, as `get_logger` and `dictConfig` call it.
-/

namespace TypeMismatch

/-- The state of a logger other than the root. Without a parent it is right below the root. Of its
handlers only those that fail are kept. -/
structure Logger where
  level : Level
  disabled : Bool
  propagates : Bool
  parent : Option String
  outlets : List Outlet
deriving DecidableEq, Repr

/-- What stands under a name: a logger, or a gap above the loggers with the listed names. -/
inductive Place where
  | logger (l : Logger)
  | gap (below : List String)
deriving DecidableEq, Repr

/-- What stands under names, in the order in which they came. -/
abbrev Places := List (String × Place)

namespace Logger

/-- The name of the logger above all others. -/
def rootName : String := "root"

/-- A logger as it comes into being below a parent. -/
def fresh (parent : Option String) : Logger := ⟨.unset, false, true, parent, []⟩

/-- The names that may be above a name, which is given from its end, the nearest first. -/
def namesAboveFrom : List Char → List String
  | [] => []
  | [_] => []
  | x :: c :: before =>
    if x = '.' then String.ofList (c :: before).reverse :: namesAboveFrom before
    else namesAboveFrom (c :: before)

/-- The names that may be above a name, the nearest first. -/
def namesAbove (name : String) : List String := namesAboveFrom name.toList.reverse

end Logger

namespace Places

/-- What stands under a name, if anything does. -/
def get? (places : Places) (name : String) : Option Place := places.lookup name

/-- The logger with a name, if there is one. -/
def logger? (places : Places) (name : String) : Option Logger :=
  match places.get? name with
  | some (.logger l) => some l
  | _ => none

/-- The places with something put under a name. -/
def put (places : Places) (name : String) (place : Place) : Places :=
  if (places.get? name).isSome then places.map fun e => if e.1 = name then (name, place) else e
  else places ++ [(name, place)]

/-- The places with a name noted in the gaps at the given names above it, up to the first that has a
logger; this is the parent. -/
def note (places : Places) (name : String) : List String → Places × Option String
  | [] => (places, none)
  | above :: names =>
    match places.get? above with
    | some (.logger _) => (places, some above)
    | some (.gap below) => note (places.put above (.gap (below ++ [name]))) name names
    | none => note (places.put above (.gap [name])) name names

/-- The places with a logger made the parent of those below it, unless their parent is already no
further away. -/
def adopt (places : Places) (name : String) (below : List String) : Places :=
  places.map fun e =>
    match e with
    | (other, .logger l) =>
      if below.contains other
          && !name.toList.isPrefixOf (l.parent.getD Logger.rootName).toList then
        (other, .logger { l with parent := some name })
      else e
    | e => e

/-- The places in which a name has a logger. -/
def create (places : Places) (name : String) : Places :=
  match places.get? name with
  | some (.logger _) => places
  | some (.gap below) =>
    let (places, parent) := (places.adopt name below).note name (Logger.namesAbove name)
    places.put name (.logger (.fresh parent))
  | none =>
    let (places, parent) := note (places ++ [(name, .logger (.fresh none))]) name
      (Logger.namesAbove name)
    places.put name (.logger (.fresh parent))

/-- The places with the state of a logger changed, which is created if need be. -/
def change (places : Places) (name : String) (f : Logger → Logger) : Places :=
  let places := places.create name
  match places.logger? name with
  | some l => places.put name (.logger (f l))
  | none => places

/-- A logger and those above it, with their names, the nearest first. Every name is longer than the
next one, and `fuel` bounds the first. -/
def lineageFrom (places : Places) : Nat → Option String → List (String × Logger)
  | fuel + 1, some name =>
    match places.logger? name with
    | some l => (name, l) :: lineageFrom places fuel l.parent
    | none => []
  | _, _ => []

/-- A logger and those above it, with their names, the nearest first. -/
def lineage (places : Places) (name : String) : List (String × Logger) :=
  places.lineageFrom (name.length + 1) (some name)

end Places
end TypeMismatch
