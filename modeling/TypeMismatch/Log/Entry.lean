import TypeMismatch.Files
import TypeMismatch.Log
import TypeMismatch.Log.Known
import TypeMismatch.Value.Mapping

/-!
# A set-up while it is carried out

The set-up of the log changes while it is carried out. Its mappings and lists are parts with
numbers, the whole being part zero; what has not been reached has no number yet. An entry of a part
is read when it is needed for the first time, and then holds what it stands for, which may be a part
that stands in other places too. Entries are taken out of a part while something is made of it, and
what has been made is put in the place of its part.

Source: `dictConfig`, the mappings and lists that convert what they hold.
-/

namespace TypeMismatch

/-- What has been made of a part: the name of its class, whether it handles records, and how it
fails on them, if it does. -/
structure Made where
  kind : String
  isHandler : Bool
  outlet : Option Outlet
deriving DecidableEq, Repr

/-- What an entry of a set-up stands for. -/
inductive Found where
  | plain (r : Referent)
  | part (number : Nat)
  | made (m : Made)

/-- What an entry of a set-up holds. -/
inductive Entry where
  | unread (v : Value)
  | read (f : Found)

/-- A mapping or a list of a set-up, whose keys are then the positions. -/
structure Part where
  isMap : Bool
  entries : List (Value × Entry)

namespace Part

instance : Inhabited Part := ⟨⟨true, []⟩⟩

/-- The part that a mapping is. -/
def ofEntries (es : Mapping) : Part := ⟨true, es.map fun e => (e.1, .unread e.2)⟩

/-- The part that a list is. -/
def ofItems (vs : List Value) : Part := ⟨false, vs.mapIdx fun i v => (.int i, .unread v)⟩

/-- Whether an entry is under a key. -/
def isUnder (k : Value) (e : Value × Entry) : Bool := e.1.isSameKey k

/-- The entry under a key. -/
def get? (p : Part) (k : Value) : Option Entry := (p.entries.find? (isUnder k)).map (·.2)

/-- The part with an entry put under a key. -/
def put (p : Part) (k : Value) (e : Entry) : Part :=
  if (p.get? k).isSome then
    { p with entries := p.entries.map fun old => if isUnder k old then (old.1, e) else old }
  else { p with entries := p.entries ++ [(k, e)] }

/-- The part without the entry under a key. -/
def drop (p : Part) (k : Value) : Part :=
  { p with entries := p.entries.filter fun e => !isUnder k e }

end Part

/-- A set-up of the log while it is carried out: its parts, and the files and the log so far. -/
structure Setup where
  parts : Array Part
  files : Files
  log : Log

namespace Setup

/-- A set-up that has not been begun. -/
def start (entries : Mapping) (files : Files) (log : Log) : Setup :=
  ⟨#[.ofEntries entries], files, log⟩

/-- The number of the whole. -/
def whole : Nat := 0

/-- The part with a number. -/
def part (s : Setup) (n : Nat) : Part := s.parts.getD n default

/-- Whether a part has an entry under a key. -/
def has (s : Setup) (n : Nat) (k : Value) : Bool := ((s.part n).get? k).isSome

/-- The set-up with a part changed. -/
def changePart (s : Setup) (n : Nat) (f : Part → Part) : Setup :=
  { s with parts := s.parts.modify n f }

/-- The set-up with what is found put under a key of a part. -/
def put (s : Setup) (n : Nat) (k : Value) (f : Found) : Setup :=
  s.changePart n (·.put k (.read f))

/-- The set-up without what is under a key of a part. -/
def drop (s : Setup) (n : Nat) (k : Value) : Setup := s.changePart n (·.drop k)

/-- The set-up with a further part, and its number. -/
def add (s : Setup) (p : Part) : Setup × Nat := ({ s with parts := s.parts.push p }, s.parts.size)

/-- The set-up with the log changed. -/
def changeLog (s : Setup) (f : Log → Log) : Setup := { s with log := f s.log }

/-- The value that is found, with all that is in it. A part that is within itself stands there
without its entries; what is no value stands as it is shown. -/
def valueOf (s : Setup) : Nat → List Nat → Found → Value
  | _, _, .plain (.value v) => v
  | _, _, .plain (.thing name kind) => .text (Referent.shownThing name kind)
  | _, _, .made m => .text m.kind
  | 0, _, .part n => .again (s.part n).isMap n []
  | fuel + 1, around, .part n =>
    let p := s.part n
    let inner (e : Entry) := match e with
      | .unread v => v
      | .read f => valueOf s fuel (n :: around) f
    if around.contains n then .again p.isMap n []
    else if p.isMap then .map (p.entries.map fun e => (e.1, inner e.2))
    else .list (p.entries.map fun e => inner e.2)

/-- What is found, seen from outside: a part as its value, and what has been made as a thing without
a name. -/
def seen (s : Setup) : Found → Referent
  | .plain r => r
  | .part n => .value (s.valueOf s.parts.size [] (.part n))
  | .made m => .thing "" m.kind

/-- The names in a part: the keys of a mapping, the items of a list. -/
def names (s : Setup) (n : Nat) : List Value :=
  let p := s.part n
  if p.isMap then p.entries.map (·.1)
  else
    p.entries.map fun e => match e.2 with
      | .unread v => v
      | .read f => s.valueOf s.parts.size [] f

end Setup
end TypeMismatch
