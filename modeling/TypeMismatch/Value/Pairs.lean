import TypeMismatch.Text.Digit
import TypeMismatch.Value.Mapping

/-!
# Values that stand for mappings

A mapping may also be given as pairs of a key and a value, in any value that has items; what does
not count as given stands for the empty mapping. Only a mapping itself can be laid over another.

Source: the mappings that `from_mapping`, `merge` and `_apply_level_override` make of what they are
given.
-/

namespace TypeMismatch

/-- Why a value does not stand for a mapping. -/
inductive MappingFault where
  /-- A value of this kind has no items. -/
  | noItems (kind : String)
  /-- An item, by its position, is no pair because it has no items. -/
  | notItems (position : Nat)
  /-- An item, by its position, is no pair because it has another length. -/
  | notPair (position length : Nat)
  /-- A value of this kind stands where a key is needed. -/
  | notKey (kind : String)
  /-- A value of this kind has no entries. -/
  | noEntries (kind : String)
  /-- Two mappings that are laid over each other meet again below themselves. -/
  | endless
deriving DecidableEq, Repr

/-- The fault in words. -/
def MappingFault.message : MappingFault → String
  | noItems kind => "'" ++ kind ++ "' object is not iterable"
  | notItems position =>
    "cannot convert dictionary update sequence element #" ++ String.ofList (Text.numeral position)
      ++ " to a sequence"
  | notPair position length =>
    "dictionary update sequence element #" ++ String.ofList (Text.numeral position)
      ++ " has length " ++ String.ofList (Text.numeral length) ++ "; 2 is required"
  | notKey kind => "unhashable type: '" ++ kind ++ "'"
  | noEntries kind => "'" ++ kind ++ "' object has no attribute 'items'"
  | endless => "maximum recursion depth exceeded"

namespace Mapping

/-- A mapping with pairs put into it in turn, of which the first has the given position. -/
def putPairs (m : Mapping) (position : Nat) : List Value → Except MappingFault Mapping
  | [] => .ok m
  | v :: vs =>
    match v.items? with
    | none => .error (.notItems position)
    | some [k, w] =>
      match k.key with
      | .error kind => .error (.notKey kind)
      | .ok _ => putPairs (put m k w) (position + 1) vs
    | some items => .error (.notPair position items.length)

/-- The mapping that a value stands for, itself or as pairs. -/
def ofValue (v : Value) : Except MappingFault Mapping :=
  if !v.isGiven then .ok []
  else
    match v.opened with
    | .map es => .ok es
    | v =>
      match v.items? with
      | some items => putPairs [] 0 items
      | none => .error (.noItems v.kind)

/-- A mapping laid over another, if both values are mappings and do not meet without end. -/
def layOver (base updates : Value) : Except MappingFault Mapping :=
  match base.opened, updates.opened with
  | .map m, .map n =>
    if meet (levels base updates) base updates then .error .endless else .ok (lay m n)
  | .map _, _ => .error (.noEntries updates.kind)
  | _, _ => .error (.noEntries base.kind)

end Mapping
end TypeMismatch
