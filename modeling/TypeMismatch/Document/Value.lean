import TypeMismatch.Document.Order

/-!
# The value of a document

A collection that stands for a scalar has its value already, and another has one as soon as those
that it holds have one. Those that are left lie within themselves, or hold such collections; they
are the parts of a ring.

Source: `safe_load` as a whole (`Document.read`).
-/

namespace TypeMismatch
namespace Document

/-- The values of the collections that hold no part of a ring, given those known before. -/
def knownValues (cs : Collections) (known : Collections.Known) :
    List Nat → Except DocumentFault Collections.Known
  | [] => .ok known
  | number :: numbers => do
    let has (n : Nat) := (known.getD n none).isSome
    let isKnown : Node → Bool
      | .scalar _ _ _ => true
      | .collection _ n => has n
    if !has number && (cs.needed number).all isKnown then
      let v ← cs.value known number
      knownValues cs (known.setIfInBounds number (some v)) numbers
    else knownValues cs known numbers

/-- The value of a document without faults. -/
def Graph.value (g : Graph) : Except DocumentFault Value := do
  let p ← g.survey
  let cs := p.collections
  let met := g.ended.filter fun n => p.met.getD n false
  let known ← knownValues cs p.known met.reverse
  let parts ← (met.filter fun n => (known.getD n none).isNone).mapM fun n => do
    let v ← cs.value known n
    pure (n, v)
  let root ← Collections.nodeValue known g.root
  pure (if parts.isEmpty then root else (root.withParts parts).opened)

/-- The document of a text. -/
def graph (text : List Char) : Except DocumentFault Graph :=
  match lexemes? text with
  | some ls => Node.graph ls
  | none => .error .malformed

/-- The value that a document holds, or its first fault. -/
def read (text : List Char) : Except DocumentFault Value := do
  let g ← graph text
  g.value

end Document
end TypeMismatch
