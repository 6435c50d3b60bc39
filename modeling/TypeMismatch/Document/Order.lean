import TypeMismatch.Document.Contents

/-!
# The order of faults in a document

Of several faults in a document the first counts, and the order is by depth: the scalars of a
collection are looked at, keys and values in turn, before anything within the collections that it
holds, and collections of one depth from left to right. A collection as a key is a fault in itself.
What a mapping takes in is gathered before its entries are looked at, which it does once, and a
collection that stands in several places is looked into once.

Source: `safe_load`, the order in which it constructs what is in a graph.
-/

namespace TypeMismatch
namespace Document

/-- How far a document has been looked at: its collections, in which mappings come to have what they
take in among their own entries, which of them have been met, and the values of those that stand for
scalars. -/
structure Progress where
  collections : Collections
  met : Array Bool
  known : Collections.Known

/-- A step of looking at a document. -/
abbrev Survey := StateT Progress (Except DocumentFault)

namespace Survey

/-- The collections as they are now. -/
def collections : Survey Collections := do pure (← get).collections

/-- Gives a mapping other entries. -/
def setEntries (number : Nat) (es : List (Node × Node)) : Survey Unit :=
  modify fun p => { p with collections := p.collections.withEntries number es }

/-- Meets a collection, and tells whether it had been met before. -/
def meet (number : Nat) : Survey Bool := do
  let before := (← get).met.getD number true
  modify fun p => { p with met := p.met.setIfInBounds number true }
  pure before

/-- Remembers the value of a node that stands for a scalar. -/
def remember (n : Node) (v : Value) : Survey Unit :=
  match n with
  | .scalar _ _ _ => pure ()
  | .collection _ number =>
    modify fun p => { p with known := p.known.setIfInBounds number (some v) }

/-- The first entry that takes something in, with what stands before and behind it. -/
def split? (es : List (Node × Node)) : Option (List (Node × Node) × Node × List (Node × Node)) :=
  match es.dropWhile (!·.1.isMerge) with
  | [] => none
  | e :: after => some (es.takeWhile (!·.1.isMerge), e.2, after)

/-- An entry of a mapping that has been gathered: under the key of a default value it has a text. -/
def settled (e : Node × Node) : Node × Node :=
  match e with
  | (.scalar style text place, v) =>
    (.scalar (if isDefault style text then .text else style) text place, v)
  | e => e

/-- The entries that a node gives to a mapping that takes it in: those of a mapping, or of the
mappings of a sequence, the last one first. -/
def given (entries : Nat → Survey (List (Node × Node))) : Node → Survey (List (Node × Node))
  | .collection true number => entries number
  | .collection false number => do
    let parts ← ((← collections).itemsOf number).mapM fun
      | .collection true n => entries n
      | _ => throw .malformed
    pure parts.reverse.flatten
  | .scalar _ _ _ => throw .malformed

/-- Gathers the entries of a mapping: what it takes in, some of which has been taken, comes before
its own. Every taking leaves one less to be taken in the document; `fuel` bounds their number. -/
def gather : Nat → List (Node × Node) → Nat → Survey (List (Node × Node))
  | fuel, taken, number => do
    let es := (← collections).entriesOf number
    match fuel, split? es with
    | fuel + 1, some (before, source, after) =>
      setEntries number (before ++ after)
      let more ← given (gather fuel []) source
      gather fuel (taken ++ more) number
    | _, _ =>
      let es := taken ++ es.map settled
      setEntries number es
      pure es

/-- How many entries of a document take something in. -/
def takings (cs : Collections) : Nat :=
  cs.foldl (fun n c => n + match c with
    | .mapping _ es => es.countP (·.1.isMerge)
    | .sequence _ _ => 0) 0

/-- Looks at a node within a collection: what is to be read as a collection, by its form or by its
tag, is left for later. -/
def lookAt (n : Node) : Survey (List Node) := do
  let cs ← collections
  let rest ← match n with
    | .scalar (.tagged tag) _ _ => pure (Tagged.isCollectionTag tag)
    | .scalar _ _ _ => pure false
    | .collection _ number =>
      if ← meet number then return []
      pure ((cs.tagOf number).all Tagged.isCollectionTag)
  if rest then return [n]
  match cs.atom? n with
  | some v =>
    remember n (← v)
    pure []
  | none => throw .malformed

/-- Looks at a key, which must stand for a scalar. -/
def lookAtKey (n : Node) : Survey Unit := do
  match n with
  | .scalar style text place =>
    let _ ← keyValue style text place
  | n =>
    let _ ← lookAt n
    let _ ← Collections.keyOf (← get).known n

/-- Looks at the key of an entry and at what is under it. -/
def lookAtEntry (e : Node × Node) : Survey (List Node) := do
  lookAtKey e.1
  lookAt e.2

/-- Looks at an item that must be a mapping with one entry. -/
def lookAtPair (n : Node) : Survey (List Node) := do
  let cs ← collections
  let es := match n with
    | .collection true number => cs.entriesOf number
    | _ => []
  match es with
  | [(k, v)] =>
    let ks ← lookAt k
    let vs ← lookAt v
    pure (ks ++ vs)
  | _ => throw .malformed

/-- Looks at everything that is right within a collection, and gives the collections among it. What
is to be read as a collection must be one of the form that its tag asks for. -/
def lookInto (takings : Nat) (n : Node) : Survey (List Node) := do
  let cs ← collections
  match n with
  | .collection false number =>
    match sequenceKind (cs.tagOf number) with
    | .list => return (← (cs.itemsOf number).mapM lookAt).flatten
    | .pairs => return (← (cs.itemsOf number).mapM lookAtPair).flatten
    | .none => throw .malformed
  | .collection true number =>
    if mappingKind (cs.tagOf number) = .none then throw .malformed
    let es ← gather takings [] number
    return (← es.mapM lookAtEntry).flatten
  | .scalar _ _ _ => throw .malformed

/-- Looks below some collections, level by level. Every level but the first meets a collection, and
`fuel` bounds the number of levels. -/
def lookBelow (takings : Nat) : Nat → List Node → Survey Unit
  | 0, _ => pure ()
  | fuel + 1, level => do
    let found ← level.mapM (lookInto takings)
    if found.flatten.isEmpty then pure () else lookBelow takings fuel found.flatten

/-- Looks at a whole document. -/
def lookAtAll (g : Graph) : Survey Unit := do
  let level ← lookAt g.root
  lookBelow (takings g.collections) (g.collections.size + 2) level

end Survey

/-- How far a document without faults has been looked at in the end, or its first fault. -/
def Graph.survey (g : Graph) : Except DocumentFault Progress := do
  let n := g.collections.size
  let start : Progress := ⟨g.collections, Array.replicate n false, Array.replicate n none⟩
  let ((), p) ← (Survey.lookAtAll g).run start
  pure p

end Document
end TypeMismatch
