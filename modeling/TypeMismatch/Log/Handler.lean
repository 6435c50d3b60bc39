import TypeMismatch.Log.Part

/-!
# Handlers of a set-up

A handler has a class, a formatter, a level, and what its class takes besides. All of these are
taken out of its part while it is made.

A handler may pass what it gathers on to another one, its target. If its target has not been made
when its turn comes, what was taken out of its part is put back, and it is made later than the
others. So is every handler that fails for a cause whose words tell of that.

Source: `dictConfig`, how it makes a handler.
-/

namespace TypeMismatch
namespace Making

/-- The words for a target that has not been made. -/
def notYet : String := "target not configured yet"

/-- Whether a text stands somewhere in another. -/
def isWithin (s : List Char) : List Char → Bool
  | [] => s.isEmpty
  | c :: cs => s.isPrefixOf (c :: cs) || isWithin s cs

/-- Whether a cause tells of a target that has not been made. -/
def isEarly (cause : String) : Bool := isWithin notYet.toList cause.toList

/-- What a section of the set-up has under a name. If it has nothing there, that is the cause. -/
def named (key : String) (name : Referent) : Making Found := do
  let told (n : Nat) (k : Value) : Making Found :=
    ExceptT.adapt ReferenceFault.message (Lookup.entry n k)
  match ← told Setup.whole key, name with
  | .part n, .value k => if k.isKey && ((← get).part n).isMap then told n k else fail
  | _, _ => fail

/-- Finds the target of a handler and puts it in its place. The entries that the part had before are
put back if the target has not been made. -/
def findTarget (n : Nat) (before : List (Value × Entry)) : Making Unit := do
  let name ← seen (← ExceptT.adapt (fun _ => "") (Lookup.entry n "target"))
  match ← named "handlers" name with
  | .made m =>
    if m.isHandler then modify (·.put n "target" (.made m)) else restore
  | _ => restore
where
  /-- Puts the entries back and tells that the target has not been made. -/
  restore : Making Unit := do
    modify fun s => s.changePart n fun p => before.foldl (fun p e => p.put e.1 e.2) p
    throw notYet

/-- How the target of a handler fails on what is passed on to it, if it does. -/
def targetFault? (n : Nat) : Making (Option OutletFault) := do
  if !(← has n "target") then return none
  match ← (Lookup.entry n "target").made with
  | .made m => pure ((m.outlet.filter fun o => o.level.isSome).map (·.fault))
  | .plain (.value v) => pure (if v.isGiven then some (.noAttribute v.kind "handle") else none)
  | _ => pure none

/-- Makes a handler of a part. -/
def handler (n : Nat) : Making Made := do
  let before := ((← get).part n).entries
  let formatter ← take n "formatter"
  if formatter.isGiven then
    let _ ← named "formatters" formatter
  let level ← take n "level"
  let filters ← (Lookup.take n "filters" .null).made
  let isFactory ← has n factoryKey
  let kind ← kindOf isFactory (← take n (if isFactory then factoryKey else "class"))
  if !isFactory && kind.name = Kind.gatherer && (← has n "target") then findTarget n before
  let args ← arguments n
  construct kind args
  let level ← Making.level level
  if !kind.isHandler && (formatter.isGiven || level.isSome) then fail
  if (← seen filters).isGiven then fail
  let attributes ← attributes n kind.isHandler
  let amount := (level.map Level.amount).getD 0
  pure ⟨kind.className, kind.isHandler, kind.outlet? (← get).files args amount attributes
    (← targetFault? n)⟩

end Making
end TypeMismatch
