import TypeMismatch.Document.Node
import TypeMismatch.Document.Tagged
import TypeMismatch.Value.Mapping
import TypeMismatch.Value.Table

/-!
# The values of nodes

Every node stands for a value. A key of a mapping must be able to be one, and of several equal keys
the first stays, with the last value. Under the plain key `<<` a mapping, or a sequence of mappings,
is taken in: its entries come before those of the mapping itself, and of several mappings the first
takes precedence. The plain key `=` is text. As values these two have no meaning.

A tag may make a mapping a set of its keys, and a sequence of mappings with one entry each a list of
pairs. With the tag of a scalar a mapping stands for its default value, which is under the plain key
`=`. Any other collection must not be tagged as something else.

Source: `safe_load`, the part that constructs values from nodes.
-/

namespace TypeMismatch
namespace Document

/-- The key under which mappings are taken in. -/
def mergeKey : List Char := ['<', '<']

/-- The key that stands for a default value. -/
def defaultKey : List Char := ['=']

/-- Whether a plain scalar is one of the signs that stand for no value. -/
def isSign (text : List Char) : Bool :=
  [mergeKey, defaultKey, ['!'], ['&'], ['*']].contains (formOf text)

/-- The value of a plain scalar. A line feed at its end does not change the form, but belongs to a
text, and it is not taken where only a word will do. -/
def plainValue (text : List Char) : Except DocumentFault Value :=
  let form := formOf text
  if form.length = text.length then Atom.value text
  else if form.isEmpty then .ok (.text (String.ofList text))
  else
    match Atom.value form with
    | .ok (.text _) => .ok (.text (String.ofList text))
    | .ok (.bool _) => .error (.notTruth (Text.pointsOf (text.map Char.toLower)))
    | .ok v =>
      if Atom.isSpecial form then
        .error (.notDecimal (Text.pointsOf ((Number.splitSign text).2.map Char.toLower)))
      else .ok v
    | .error (.notInteger base _) => .error (.notInteger base [.char '\n'])
    | .error f => .error f

/-- The value of a scalar at a place. A broken text has no form. -/
def scalarValue (style : Style) (text : List Text.Point) (place : Nat) :
    Except DocumentFault Value :=
  match style, Text.chars? text with
  | .plain, some s => if isSign s then .error .malformed else plainValue s
  | .plain, none | .text, _ => .ok (.ofPoints text)
  | .tagged tag, _ => Tagged.value tag text place

/-- Whether a scalar is plain and has a given form. -/
def isPlainForm (form : List Char) (style : Style) (text : List Text.Point) : Bool :=
  style = .plain && (Text.chars? text).any fun s => formOf s = form

/-- Whether a scalar, as a key, stands before a default value. -/
def isDefault (style : Style) (text : List Text.Point) : Bool :=
  style = .tagged (Tagged.tagOf "value") || isPlainForm defaultKey style text

/-- The value of a scalar as a key. -/
def keyValue (style : Style) (text : List Text.Point) (place : Nat) :
    Except DocumentFault Value :=
  if isDefault style text then .ok (.ofPoints text) else scalarValue style text place

/-- What a tag makes of a sequence. -/
inductive SequenceKind where
  | list
  | pairs
  | none
deriving DecidableEq, Repr

/-- What a tag makes of a sequence. -/
def sequenceKind (tag : Option String) : SequenceKind :=
  match tag with
  | Option.none => .list
  | some t =>
    if t = Tagged.tagOf "seq" then .list
    else if t = Tagged.tagOf "omap" || t = Tagged.tagOf "pairs" then .pairs
    else .none

/-- What a tag makes of a mapping. -/
inductive MappingKind where
  | map
  | set
  | none
deriving DecidableEq, Repr

/-- What a tag makes of a mapping. -/
def mappingKind (tag : Option String) : MappingKind :=
  match tag with
  | Option.none => .map
  | some t =>
    if t = Tagged.tagOf "map" then .map
    else if t = Tagged.tagOf "set" then .set
    else .none

namespace Node

/-- Whether a node, as a key, says that something is taken in. -/
def isMerge : Node → Bool
  | scalar style text _ =>
    style = .tagged (Tagged.tagOf "merge") || isPlainForm mergeKey style text
  | collection _ _ => false

/-- Whether a node, as a key, stands before a default value. -/
def isDefaultKey : Node → Bool
  | scalar style text _ => isDefault style text
  | collection _ _ => false

end Node

namespace Collections

/-- The text of the default value in a mapping: a text, or the default value of another mapping. At
most so many mappings as `fuel` says are looked into. -/
def defaultText? (cs : Collections) : Nat → Nat → Option (List Text.Point)
  | 0, _ => none
  | fuel + 1, number =>
    match (cs.entriesOf number).find? (·.1.isDefaultKey) with
    | some (_, .scalar _ text _) => some text
    | some (_, .collection true n) => defaultText? cs fuel n
    | _ => none

/-- The value of a mapping with the tag of a scalar, which is that of its default value. The place
of a mapping is odd. -/
def taggedValue? (cs : Collections) (number : Nat) : Option (Except DocumentFault Value) :=
  match (cs.tagOf number).filter Tagged.isScalarTag with
  | none => none
  | some tag =>
    some (match cs.defaultText? cs.size number with
      | none => .error .malformed
      | some text =>
        if tag = Tagged.tagOf "timestamp" then .error .notText
        else Tagged.value tag text (2 * number + 1))

/-- The value of a node that stands for a scalar. -/
def atom? (cs : Collections) : Node → Option (Except DocumentFault Value)
  | .scalar style text place => some (scalarValue style text place)
  | .collection true number => cs.taggedValue? number
  | .collection false _ => none

/-- The values of collections that are known. -/
abbrev Known := Array (Option Value)

/-- The value of a node. A collection without a known value is a part of a ring. -/
def nodeValue (known : Known) : Node → Except DocumentFault Value
  | .scalar style text place => scalarValue style text place
  | .collection isMap number => .ok ((known.getD number none).getD (.again isMap number []))

/-- The pair that a mapping with one entry is. -/
def pairValue (cs : Collections) (known : Known) : Node → Except DocumentFault Value
  | .collection true number =>
    match cs.entriesOf number with
    | [(k, v)] => do
      let k ← nodeValue known k
      let v ← nodeValue known v
      pure (.tuple [k, v])
    | _ => .error .malformed
  | _ => .error .malformed

/-- The value, as a key, of a node that stands for a scalar. -/
def keyOf (known : Known) : Node → Except DocumentFault Value
  | .scalar style text place => keyValue style text place
  | .collection _ number => (known.getD number none).elim (.error .malformed) .ok

/-- The key of an entry with a value. -/
def entryValue (known : Known) (value : Node → Except DocumentFault Value) (e : Node × Node) :
    Except DocumentFault (Value × Value) := do
  let k ← keyOf known e.1
  let v ← value e.2
  pure (k, v)

/-- The value of a collection that is read as one. -/
def value (cs : Collections) (known : Known) (number : Nat) : Except DocumentFault Value :=
  match cs.getD number default with
  | .sequence tag items =>
    match sequenceKind tag with
    | .list => (items.mapM (nodeValue known)).map .list
    | .pairs => (items.mapM (cs.pairValue known)).map .list
    | .none => .error .malformed
  | .mapping tag es =>
    match mappingKind tag with
    | .map => (es.mapM (entryValue known (nodeValue known))).map fun es => .map (Mapping.ofList es)
    | .set => (es.mapM (entryValue known fun _ => .ok .null)).map fun es =>
      Value.setOfAll ((Mapping.ofList es).map (·.1))
    | .none => .error .malformed

/-- The nodes whose values the value of a collection needs. -/
def needed (cs : Collections) (number : Nat) : List Node :=
  match cs.getD number default with
  | .sequence tag items =>
    match sequenceKind tag with
    | .pairs => items.flatMap fun
      | .collection true n => (cs.entriesOf n).flatMap fun e => [e.1, e.2]
      | _ => []
    | _ => items
  | .mapping tag es => if mappingKind tag = .map then es.map (·.2) else []

end Collections
end Document
end TypeMismatch
