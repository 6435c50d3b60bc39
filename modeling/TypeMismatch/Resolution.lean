import TypeMismatch.Name.Reader
import TypeMismatch.Traced

/-!
# Resolving names

A name that is given as text is read first, the expected one before the actual one; a signature is
taken as it is. Both are then shortened to what tells them apart. Every name read, and every pair
resolved, offers a record of the level for finding errors.

Source: `resolve` of a resolver, with `_coerce` (`Operand.read`), and `fully_shorten_type_name`
(`shortenName`).
-/

namespace TypeMismatch

/-- One side of a comparison. -/
inductive Operand where
  | given (v : Value)
  | signature (s : Signature)

/-- The failure of reading a name. -/
def Name.Failure.within (source : String) : Name.Failure → TypeMismatch.Failure
  | .fault f => .name f source
  | .numeralTooLong digits => .numeralTooLong digits

/-- The record over a name that has been read. -/
def readRecord (source : String) (s : Signature) : Record :=
  ⟨.debug, "typediff.typenames.parser",
    .ok ("parsed " ++ Text.quote source ++ " (nesting depth "
      ++ String.ofList (Text.numeral s.depth) ++ ")")⟩

/-- The signature of a name. -/
def readName (limit : Limit) (v : Value) : Traced Signature :=
  match v with
  | .text source =>
    match Name.read limit source.toList with
    | .ok s => ⟨[readRecord source s], .ok s⟩
    | .error e => .of (.error (e.within source))
  | v => .of (.error (.notText v.kind))

/-- The signature of one side. -/
def Operand.read (limit : Limit) : Operand → Traced Signature
  | given v => readName limit v
  | signature s => .of (.ok s)

/-- The record over a pair that has been resolved. It has a message if both sides have a name. -/
def resolvedRecord (a b : Signature) (x y : List Char) : Record where
  level := .debug
  logger := "typediff.typenames.resolver"
  told := do
    let a ← a.text
    let b ← b.text
    pure ("resolved " ++ String.ofList a ++ " / " ++ String.ofList b ++ " -> " ++ String.ofList x
      ++ " / " ++ String.ofList y)

/-- Two signatures shortened to what tells them apart. -/
def resolveSignatures (a b : Signature) : Traced (String × String) :=
  match a.resolve b with
  | .ok (x, y) => ⟨[resolvedRecord a b x y], .ok (String.ofList x, String.ofList y)⟩
  | .error e => .of (.error (.path e))

/-- Two names shortened to what tells them apart. -/
def resolve (limit : Limit) (expected actual : Operand) : Traced (String × String) := do
  let a ← expected.read limit
  let b ← actual.read limit
  resolveSignatures a b

/-- A name reduced to its last segments at every level. -/
def shortenName (limit : Limit) (v : Value) : Traced String := do
  let s ← readName limit v
  match s.shortened with
  | .ok x => pure (String.ofList x)
  | .error e => .of (.error (.path e))

end TypeMismatch
