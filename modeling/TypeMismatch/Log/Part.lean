import TypeMismatch.Log.Failing
import TypeMismatch.Log.Reference

/-!
# What is made of parts

A set-up of the log describes formatters and handlers by mappings. A formatter has a format, a style
and a class. Both may name a factory in the place of a class. Whatever a part says must be usable,
and a reference in it must lead somewhere.

Of a part that cannot be used nothing is told but what caused that, if something did.

Source: `dictConfig`, how it makes a formatter and calls a factory.
-/

namespace TypeMismatch

/-- The making of something of a part, which changes the set-up. It may fail, and tells the cause in
words then, which are none if nothing else caused it. -/
abbrev Making := ExceptT String (StateM Setup)

/-- A look into the set-up for what is made. -/
def Lookup.made {α : Type} (r : Lookup α) : Making α := ExceptT.adapt ReferenceFault.cause r

namespace Making

/-- Nothing can be made, without a cause. -/
def fail {α : Type} : Making α := throw ""

/-- Whether a part has an entry under a key. -/
def has (n : Nat) (key : String) : Making Bool := return (← get).has n key

/-- What is found, seen from outside. -/
def seen (f : Found) : Making Referent := return (← get).seen f

/-- What is under a key of a part, or else a value. -/
def read (n : Nat) (key : String) (fallback : Value) : Making Referent := do
  if ← has n key then seen (← (Lookup.entry n key).made) else pure (.value fallback)

/-- What is under a key of a part, which is taken out of it, or else null. -/
def take (n : Nat) (key : String) : Making Referent := do
  seen (← (Lookup.take n key .null).made)

/-- The key of a factory in the place of a class. -/
def factoryKey : String := "()"

/-- The key of attributes that are set in the end. -/
def attributesKey : String := "."

/-- Whether a text can name a parameter. -/
def isParameter (s : String) : Bool :=
  match s.toList with
  | c :: cs =>
    let cs := if cs.getLast? == some '\n' then cs.dropLast else cs
    (c.isAlpha || c == '_') && cs.all fun c => c.isAlphanum || c == '_'
  | [] => false

/-- The argument that an entry of a part gives. -/
def argument (n : Nat) (k : Value) : Making (String × Referent) :=
  match k with
  | .text key => do
    if !isParameter key then fail
    pure (key, ← read n key .null)
  | _ => fail

/-- The arguments that the entries of a part give. -/
def arguments (n : Nat) : Making Arguments := do
  let keys := ((← get).names n).filter fun k => !k.isSameKey attributesKey
  keys.mapM (argument n)

/-- Whether an entry tells an attribute that can be set: it is named by a text, and the name of a
handler is one under which it can be found. -/
def isAttribute (isHandler : Bool) (e : Value × Value) : Bool :=
  match e.1 with
  | .text key => !isHandler || key != "name" || e.2.isKey
  | .broken _ => true
  | _ => false

/-- The attributes that a part gives in the end. -/
def attributes (n : Nat) (isHandler : Bool) : Making Mapping := do
  match ← take n attributesKey with
  | .value (.map es) => if es.all (isAttribute isHandler) then pure es else fail
  | r => if r.isGiven then fail else pure []

/-- The kind that a class or a factory stands for. -/
def kindOf (isFactory : Bool) (r : Referent) : Making Kind := do
  let name ← match r with
    | .value (.text name) =>
      let _ ← Lookup.made (liftM (Referent.ofName name))
      pure name
    | .value _ => fail
    | .thing name _ => if isFactory then pure name else fail
  match Kind.named? name with
  | some kind => pure kind
  | none => fail

/-- Makes something of a kind, which may open a file. -/
def construct (kind : Kind) (args : Arguments) : Making Unit := do
  if !kind.accepts (← get).files args then fail
  match kind.openedFile? args with
  | some f => modify fun s => { s with files := s.files.afterOpening f }
  | none => pure ()

/-- Makes a formatter by a factory. The format may have its name in full for a formatter. -/
def madeFormatter (n : Nat) : Making Made := do
  let factory ← read n factoryKey .null
  modify (·.drop n factoryKey)
  let kind ← kindOf true factory
  let args ← arguments n
  let isRenamed := kind.name = Kind.formatter.name && args.has "format"
  if isRenamed then
    let format ← (Lookup.take n "format" .null).made
    modify (·.put n "fmt" format)
  construct kind (if isRenamed then
      ("fmt", args.get "format") :: args.filter fun e => e.1 != "format" && e.1 != "fmt"
    else args)
  let _ ← attributes n kind.isHandler
  pure ⟨kind.className, kind.isHandler, none⟩

/-- Makes a formatter of a part. What it says is given to the class by position. -/
def formatter (n : Nat) : Making Made := do
  if ← has n factoryKey then madeFormatter n
  else
    let format ← read n "format" .null
    let dateFormat ← read n "datefmt" .null
    let style ← read n "style" "%"
    let cls ← read n "class" .null
    let kind ← if cls.isGiven then kindOf false cls else pure Kind.formatter
    let check ← if ← has n "validate" then pure [← read n "validate" .null] else pure []
    match kind.byPosition? ([format, dateFormat, style] ++ check) with
    | some args => construct kind args
    | none => fail
    pure ⟨kind.className, kind.isHandler, none⟩

/-- The level that a part gives; null gives none. -/
def level : Referent → Making (Option Level)
  | .value .null => pure none
  | .value v =>
    match Log.levelOf v with
    | .ok level => pure (some level)
    | .error _ => fail
  | .thing _ _ => fail

end Making
end TypeMismatch
