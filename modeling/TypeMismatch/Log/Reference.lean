import TypeMismatch.Log.Entry
import TypeMismatch.Value.Whole

/-!
# References in a set-up

A text of a set-up may refer to something else: behind `ext://` to what is known under a name with
points, behind `cfg://` to another part of the set-up, by a path of keys such as `loggers.a` or
`handlers[0]`. What a reference leads to may be a reference again. Where an entry is read it keeps
what it stands for, and so do the entries that are read on the way.

A name is looked up from its start: first a module, then what it holds, part by part. Packages hold
modules; what is missing is told by the shortest beginning of the name that is no module.

Source: `dictConfig`, how it converts `ext://` and `cfg://`.
-/

namespace TypeMismatch
namespace Referent

/-- The beginnings of a name up to its points, the shortest first, behind a beginning. -/
def beginnings (start : String) : List (List Char) → List String
  | [] => [start]
  | part :: parts => start :: beginnings (start ++ "." ++ String.ofList part) parts

/-- What is missing for the last of some names to be a module, each the beginning of the next. -/
def missingAmong (name : String) : Option String → List String → ReferenceFault
  | _, [] => .noStart
  | holder, start :: starts =>
    if isModule start && !starts.isEmpty then missingAmong name (some start) starts
    else .missing name start (holder.filter fun h => !packages.contains h)

/-- What a name with points leads to. -/
def ofName (name : String) : Except ReferenceFault Referent :=
  match Text.split '.' name.toList with
  | [] | [] :: _ => .error .noStart
  | first :: parts =>
    let starts := beginnings (String.ofList first) parts
    match starts.findIdx? fun start => (known? start).isNone with
    | some i => .error (missingAmong name none (starts.take (i + 1)))
    | none =>
      match known? name with
      | some r => .ok r
      | none => .error .noStart

/-- A step of a path through a set-up: a key, or an index between brackets. -/
inductive Step where
  | key (word : List Char)
  | index (word : List Char)

/-- Whether a character belongs to a word of a path. -/
def isWordChar (c : Char) : Bool := c.isAlphanum || c == '_' || 0x80 ≤ c.toNat

/-- A word with blanks around it, and the text behind it. -/
def word? (s : List Char) : Option (List Char × List Char) :=
  let s := s.dropWhile Text.isBlank
  let word := s.takeWhile isWordChar
  if word.isEmpty then none
  else some (word, (s.dropWhile isWordChar).dropWhile Text.isBlank)

/-- The step at the start of a text, and the text behind it. -/
def step? (s : List Char) : Option (Step × List Char) :=
  match s with
  | '.' :: s => (word? s).map fun (word, rest) => (.key word, rest)
  | '[' :: s =>
    match word? s with
    | some (word, ']' :: rest) => some (.index word, rest.dropWhile Text.isBlank)
    | _ => none
  | _ => none

/-- The word of a step, and whether it may be a number: an index of digits is one. -/
def Step.word : Step → List Char × Bool
  | key word => (word, false)
  | index word => (word, word.all Text.isDigit)

/-- The mark of a reference and what stands behind it. -/
def parts? (s : List Char) : Option (String × List Char) :=
  let mark := s.takeWhile Char.isLower
  match s.dropWhile Char.isLower with
  | ':' :: '/' :: '/' :: rest =>
    let body := if rest.getLast? == some '\n' then rest.dropLast else rest
    if mark.isEmpty || body.contains '\n' then none else some (String.ofList mark, body)
  | _ => none

end Referent

/-- A look into a set-up, which changes it and may lead nowhere. -/
abbrev Lookup := ExceptT ReferenceFault (StateM Setup)

namespace Lookup

/-- What is under a key of a part, where `read` says what a value stands for. -/
def under (read : Value → Lookup Found) (n : Nat) (k : Value) : Lookup Found := do
  match ((← get).part n).get? k with
  | none => throw (.noKey k.written)
  | some (.read f) => pure f
  | some (.unread v) =>
    let f ← read v
    modify (·.put n k f)
    pure f

/-- The item of a value with a number, or the fault of a value that has no such item. What is in a
tuple is read wherever it is needed. -/
def item (read : Value → Lookup Found) (v : Value) (n : Nat) : Lookup Found :=
  match v with
  | .tuple vs => (vs[n]?.map read).getD (throw (.noItem v.kind))
  | .text s =>
    match s.toList[n]? with
    | some c => pure (.plain (.value (.text (String.singleton c))))
    | none => throw (.noItem v.kind)
  | .bytes bs =>
    match bs[n]? with
    | some b => pure (.plain (.value (.int b.toNat)))
    | none => throw (.noItem "index")
  | v => throw (.noItems v.kind)

/-- The fault of a thing, which has no items. -/
def noItemsIn (name kind : String) : ReferenceFault :=
  if kind = Referent.classKind then .noClassItems (Referent.lastPart name) else .noItems kind

/-- What is found at a number. -/
def atNumber (read : Value → Lookup Found) (f : Found) (k : Nat) : Lookup Found := do
  match f with
  | .part n =>
    let s ← get
    if (s.part n).isMap || s.has n (.int k) then under read n (.int k) else throw (.noItem "list")
  | .plain (.value v) => item read v k
  | .plain (.thing name kind) => throw (noItemsIn name kind)
  | .made m => throw (.noItems m.kind)

/-- What is found under a word. -/
def atWord (read : Value → Lookup Found) (f : Found) (word : String) : Lookup Found := do
  match f with
  | .part n => if ((← get).part n).isMap then under read n word else throw (.notNumber "list")
  | .plain (.value (.tuple _)) => throw (.notNumber "tuple")
  | .plain (.value (.text _)) => throw (.notNumber "str")
  | .plain (.value (.bytes _)) => throw (.notNumber "bytes")
  | .plain (.value v) => throw (.noItems v.kind)
  | .plain (.thing name kind) => throw (noItemsIn name kind)
  | .made m => throw (.noItems m.kind)

/-- What a step leads to. A number is taken for a word where a step on the way does not suit what it
leads from. -/
def step (read : Value → Lookup Found) (f : Found) (s : Referent.Step) : Lookup Found :=
  let (word, isNumber) := s.word
  let atWord := atWord read f (String.ofList word)
  if isNumber then
    tryCatch (atNumber read f (Text.digitsValue word)) fun fault =>
      if fault.isUnsuited then atWord else throw fault
  else atWord

/-- What a path leads to from something. Every step takes at least one character, and `fuel` bounds
their number. -/
def walk (read : Value → Lookup Found) (path : List Char) :
    Nat → Found → List Char → Lookup Found
  | _, f, [] => pure f
  | 0, f, _ => pure f
  | fuel + 1, f, rest =>
    match Referent.step? rest with
    | none => throw (.notStep (String.ofList path) (String.ofList rest))
    | some (s, rest) => do
      let f ← step read f s
      walk read path fuel f rest

/-- What a value of a set-up stands for, through at most so many references. -/
def valueWithin : Nat → Value → Lookup Found
  | 0, _ => throw .endless
  | fuel + 1, v => do
    match v.opened with
    | .map es => .part <$> modifyGet fun s => (s.add (.ofEntries es)).swap
    | .list vs => .part <$> modifyGet fun s => (s.add (.ofItems vs)).swap
    | .text s =>
      match Referent.parts? s.toList with
      | some ("ext", name) => .plain <$> (Referent.ofName (String.ofList name) : Except _ _)
      | some ("cfg", path) =>
        match Referent.word? path with
        | none => throw (.notPath (String.ofList path))
        | some (word, rest) => do
          let f ← under (valueWithin fuel) Setup.whole (String.ofList word)
          walk (valueWithin fuel) path rest.length f rest
      | _ => pure (.plain (.value v))
    | v => pure (.plain (.value v))

/-- What a value of a set-up stands for. -/
def value (v : Value) : Lookup Found := valueWithin 100 v

/-- What is under a key of a part. -/
def entry (n : Nat) (k : Value) : Lookup Found := under value n k

/-- What is under a key of a part, which is taken out of it, or else what a value stands for. -/
def take (n : Nat) (k fallback : Value) : Lookup Found := do
  let e := ((← get).part n).get? k
  modify (·.drop n k)
  match e with
  | none => value fallback
  | some (.read f) => pure f
  | some (.unread v) => value v

end Lookup
end TypeMismatch
