import TypeMismatch.Literal.Reader
import TypeMismatch.Machine
import TypeMismatch.Text.Quoted
import TypeMismatch.Text.Split
import TypeMismatch.Value.Mapping

/-!
# Overrides

An override such as `message.fallback_to_raw=False` has a path of keys, with points between them,
before its first equals sign, and a value behind it: that of a literal, or the text itself if it is
no literal. Empty keys do not count. Overrides are placed one after the other into a mapping, and an
override fails if its path runs into a value that an earlier one has placed.

Source: `parse_overrides` (`mapping`, one override `placeItem`) and `_coerce_literal` (`valueOf`).
-/

namespace TypeMismatch

/-- Why overrides cannot be taken. -/
inductive OverrideFault where
  /-- The item has no equals sign. -/
  | noSign (item : String)
  /-- The path has no key. -/
  | noKey
  /-- The path, written in full, runs into a value. -/
  | conflict (key : String)
  /-- A value of this kind stands where a literal needs a key. -/
  | notKey (kind : String)
  /-- The real part of a complex number is beyond the 64-bit format. -/
  | tooLarge
  /-- The machine gives up on the text of a value. -/
  | exhausted (how : Exhaustion)
deriving DecidableEq, Repr

/-- The fault in words. -/
def OverrideFault.message : OverrideFault → String
  | noSign item => "override '" ++ item ++ "' is missing '='"
  | noKey => "override key must not be empty"
  | conflict key => "override '" ++ key ++ "' conflicts with an existing value"
  | notKey kind => "unhashable type: '" ++ kind ++ "'"
  | tooLarge => "int too large to convert to float"
  | exhausted how => how.message

/-- An override: its path as it is written, the keys of the path, and the text of its value. -/
structure Override where
  key : String
  path : List String
  text : String
deriving DecidableEq, Repr

namespace Override

/-- The keys of a path, with points between them. -/
def pathOf (key : List Char) : List String :=
  ((Text.split '.' key).filter (!·.isEmpty)).map String.ofList

/-- The override that an item stands for. -/
def ofItem (item : String) : Except OverrideFault Override :=
  match Text.cut? '=' item.toList with
  | none => .error (.noSign item)
  | some (key, text) =>
    match pathOf key with
    | [] => .error .noKey
    | path => .ok ⟨String.ofList key, path, String.ofList text⟩

section
variable (machine : Machine)

/-- The value behind the sign, unless the machine gives up on its text. -/
def valueOf (text : String) : Except OverrideFault Value :=
  match machine.exhausts? text with
  | some how => .error (.exhausted how)
  | none =>
    match Value.ofLiteral text with
    | .ok v => .ok v
    | .error .malformed => .ok (.text text)
    | .error (.notKey kind) => .error (.notKey kind)
    | .error .tooLarge => .error .tooLarge

/-- The mapping with one more item placed. -/
def placeItem (m : Mapping) (item : String) : Except OverrideFault Mapping := do
  let o ← ofItem item
  if Mapping.isBlocked m o.path then .error (.conflict o.key)
  else do
    let v ← valueOf machine o.text
    pure (Mapping.place m o.path v)

/-- The mapping of a list of items. -/
def mapping (items : List String) : Except OverrideFault Mapping :=
  items.foldlM (placeItem machine) []

end

end Override
end TypeMismatch
