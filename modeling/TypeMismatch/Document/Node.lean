import TypeMismatch.Document.Lexeme

/-!
# Nodes of a document

A document holds one node: a scalar, a sequence of nodes, or a mapping of keys to nodes. Where a
node is left out it is an empty plain scalar. The entries of a sequence that is the value of a key
may stand in the column of the key; such a sequence has no start or end among the lexemes. In a flow
sequence an entry with a key is a mapping of that one entry.

A node may have an anchor, by which an alias behind it, or within it, names it again, and a tag. The
tag `!` says of a scalar that it is to be read like a plain one, and of a collection nothing.
Handles of tags are declared before the document, and two of them are known everywhere.

Since collections may lie within themselves, each has a number, and a node is a scalar or such a
number.

Further documents are refused; marks of the end may follow.

Source: `safe_load`, the parts that parse tokens and compose the graph of the nodes.
-/

namespace TypeMismatch
namespace Document

/-- How the value of a scalar is found: by its form if it is plain, and by its tag if it has one. -/
inductive Style where
  | plain
  | text
  | tagged (tag : String)
deriving DecidableEq, Repr

/-- A node of a document. -/
inductive Node where
  /-- A scalar, with the number of its place in the document. -/
  | scalar (style : Style) (text : List Text.Point) (place : Nat)
  /-- The collection with a number, which is a mapping or a sequence. -/
  | collection (isMap : Bool) (number : Nat)
deriving Repr

/-- A collection of nodes. -/
inductive Collection where
  | sequence (tag : Option String) (items : List Node)
  | mapping (tag : Option String) (entries : List (Node × Node))
deriving Repr

instance : Inhabited Collection := ⟨.sequence none []⟩

/-- The collections of a document by their numbers. -/
abbrev Collections := Array Collection

namespace Collections

/-- The items of a sequence. -/
def itemsOf (cs : Collections) (number : Nat) : List Node :=
  match cs.getD number default with
  | .sequence _ items => items
  | .mapping _ _ => []

/-- The entries of a mapping. -/
def entriesOf (cs : Collections) (number : Nat) : List (Node × Node) :=
  match cs.getD number default with
  | .mapping _ es => es
  | .sequence _ _ => []

/-- The tag of a collection. -/
def tagOf (cs : Collections) (number : Nat) : Option String :=
  match cs.getD number default with
  | .sequence tag _ | .mapping tag _ => tag

/-- The collections with other entries for a mapping. -/
def withEntries (cs : Collections) (number : Nat) (es : List (Node × Node)) : Collections :=
  cs.setIfInBounds number (.mapping (cs.tagOf number) es)

end Collections

/-- A document: its node, its collections, and their numbers in the order in which they end, the
last one first. -/
structure Graph where
  root : Node
  collections : Collections
  ended : List Nat

/-- What is still to be read of a document, the nodes that have been named, and the collections that
have begun, with the numbers of those that have ended. -/
structure Input where
  lexemes : List Lexeme
  named : List (String × Node)
  collections : Collections
  ended : List Nat

namespace Input

/-- The input of a document that has not begun. -/
def ofLexemes (lexemes : List Lexeme) : Input := ⟨lexemes, [], #[], []⟩

/-- Reads a collection, which has the next number. -/
def collect {α : Type} (i : Input) (isMap : Bool) (collection : α → Collection)
    (read : Input → Except DocumentFault (α × Input)) : Except DocumentFault (Node × Input) := do
  let number := i.collections.size
  let (parts, i) ← read { i with collections := i.collections.push default }
  pure (.collection isMap number,
    { i with
      collections := i.collections.setIfInBounds number (collection parts)
      ended := number :: i.ended })

/-- The input with other lexemes to be read. -/
def goOn (i : Input) (lexemes : List Lexeme) : Input := { i with lexemes := lexemes }

/-- Whether the next lexeme is one of the given ones. -/
def isNext (xs : List Lexeme) (i : Input) : Bool := i.lexemes.head?.any xs.contains

/-- What is wrong if the next lexeme does not fit. -/
def fault (i : Input) : DocumentFault :=
  match i.lexemes with
  | .fault f :: _ => f
  | _ => .malformed

end Input

/-- What handles of tags stand for. -/
abbrev Handles := List (String × String)

namespace Handles

/-- The handles that are known everywhere. -/
def standard : Handles := [("!", "!"), ("!!", "tag:yaml.org,2002:")]

/-- A tag in full. -/
def resolve? (handles : Handles) (t : Tag) : Option String :=
  match t.handle with
  | none => some t.suffix
  | some h => (handles.lookup h).map (· ++ t.suffix)

end Handles

namespace Node

/-- The node that stands where none is given. -/
def blank : Node := scalar .plain [] 0

/-- What can follow an entry of a sequence in the column of a key. -/
def afterEntry : List Lexeme := [.entry, .key, .value, .blockEnd]

/-- What can follow a key or a value of a block that is left out. -/
def afterKey : List Lexeme := [.key, .value, .blockEnd]

/-- The anchor and the tag of a node, in either order. -/
structure Properties where
  anchor : Option String
  tag : Option Tag

/-- The properties at the start of a node, and what is still to be read. -/
def properties (i : Input) : Properties × Input :=
  match i.lexemes with
  | .anchor a :: .tag t :: rest => (⟨some a, some t⟩, i.goOn rest)
  | .tag t :: .anchor a :: rest => (⟨some a, some t⟩, i.goOn rest)
  | .anchor a :: rest => (⟨some a, none⟩, i.goOn rest)
  | .tag t :: rest => (⟨none, some t⟩, i.goOn rest)
  | _ => (⟨none, none⟩, i)

/-- The tag in full, if it says anything. -/
def tagOf (handles : Handles) (i : Input) (p : Properties) : Except DocumentFault (Option String) :=
  match p.tag with
  | none => .ok none
  | some t =>
    match handles.resolve? t with
    | some t => .ok (some t)
    | none => .error i.fault

/-- A scalar with a tag or without one, in front of what is still to be read. Its place is even, so
that it is not one of a collection. -/
def ofScalar (tag : Option String) (plain : Bool) (text : List Text.Point) (rest : List Lexeme) :
    Node :=
  let style := match tag with
    | none => if plain then .plain else .text
    | some t => if t = "!" then .plain else .tagged t
  scalar style text (2 * rest.length)

/-- The tag of a collection, if it says anything. -/
def collectionTag (tag : Option String) : Option String := tag.filter (· != "!")

/-- Whether an anchor has named another node before. -/
def isNamed (anchor : Option String) (i : Input) : Bool :=
  anchor.any fun a => (i.named.lookup a).isSome

/-- The input behind a node, which is named if it has an anchor. -/
def name (anchor : Option String) (n : Node) (i : Input) : Input :=
  match anchor with
  | none => i
  | some a => { i with named := (a, n) :: i.named }

/-- The input in front of a node that, if it is a collection with an anchor, can be named within
itself. -/
def nameWithin (anchor : Option String) (i : Input) : Input :=
  let next := i.collections.size
  if i.isNext [.openMapping, .blockMapping] then name anchor (collection true next) i
  else if i.isNext [.openSequence, .blockSequence, .entry] then
    name anchor (collection false next) i
  else i

section Reading

variable (handles : Handles)

mutual

/-- A node. Blocks are admitted if `block` holds, and entries in the column of a key if `level`
holds. The recursion is bounded by `fuel`. -/
def read (block level : Bool) : Nat → Input → Except DocumentFault (Node × Input)
  | 0, _ => .error .malformed
  | fuel + 1, i =>
    match i.lexemes with
    | .alias a :: rest =>
      match i.named.lookup a with
      | some n => .ok (n, i.goOn rest)
      | none => .error .malformed
    | _ => do
      let (p, i) := properties i
      let tag ← tagOf handles i p
      if isNamed p.anchor i then throw i.fault
      let (n, i) ← content block level (p.anchor.isSome || p.tag.isSome) tag fuel
        (nameWithin p.anchor i)
      pure (n, name p.anchor n i)

/-- A node behind its properties. With properties, it may be left out. -/
def content (block level hasProperties : Bool) (tag : Option String) :
    Nat → Input → Except DocumentFault (Node × Input)
  | 0, _ => .error .malformed
  | fuel + 1, i =>
    let sequenceOf (i : Input) (read : Input → Except DocumentFault (List Node × Input)) :=
      i.collect false (.sequence (collectionTag tag)) read
    let mappingOf (i : Input) (read : Input → Except DocumentFault (List (Node × Node) × Input)) :=
      i.collect true (.mapping (collectionTag tag)) read
    let absent : Except DocumentFault (Node × Input) :=
      if hasProperties then .ok (ofScalar tag true [] i.lexemes, i) else .error i.fault
    match i.lexemes with
    | .entry :: _ => if level then sequenceOf i fun i => levelEntries fuel i else absent
    | .scalar plain text :: rest => .ok (ofScalar tag plain text rest, i.goOn rest)
    | .openSequence :: rest => sequenceOf (i.goOn rest) fun i => flowItems fuel true i
    | .openMapping :: rest => mappingOf (i.goOn rest) fun i => flowEntries fuel true i
    | .blockSequence :: rest =>
      if block then sequenceOf (i.goOn rest) fun i => blockItems fuel i else absent
    | .blockMapping :: rest =>
      if block then mappingOf (i.goOn rest) fun i => blockEntries fuel i else absent
    | .fault f :: _ => .error f
    | _ => absent

/-- A node, or the blank one if one of the given lexemes stands in its place. -/
def orBlank (block level : Bool) (without : List Lexeme) :
    Nat → Input → Except DocumentFault (Node × Input)
  | 0, _ => .error .malformed
  | fuel + 1, i => if i.isNext without then .ok (blank, i) else read block level fuel i

/-- The node behind a colon, or the blank one if no colon is next. -/
def valueOf (block level : Bool) (without : List Lexeme) :
    Nat → Input → Except DocumentFault (Node × Input)
  | 0, _ => .error .malformed
  | fuel + 1, i =>
    match i.lexemes with
    | .value :: rest => orBlank block level without fuel (i.goOn rest)
    | _ => .ok (blank, i)

/-- The entries of a sequence in the column of a key. -/
def levelEntries : Nat → Input → Except DocumentFault (List Node × Input)
  | 0, _ => .error .malformed
  | fuel + 1, i =>
    match i.lexemes with
    | .entry :: rest => do
      let (n, i) ← orBlank true false afterEntry fuel (i.goOn rest)
      let (ns, i) ← levelEntries fuel i
      pure (n :: ns, i)
    | _ => .ok ([], i)

/-- The entries of a block sequence up to its end. -/
def blockItems : Nat → Input → Except DocumentFault (List Node × Input)
  | 0, _ => .error .malformed
  | fuel + 1, i =>
    match i.lexemes with
    | .entry :: rest => do
      let (n, i) ← orBlank true false [.entry, .blockEnd] fuel (i.goOn rest)
      let (ns, i) ← blockItems fuel i
      pure (n :: ns, i)
    | .blockEnd :: rest => .ok ([], i.goOn rest)
    | _ => .error i.fault

/-- The entries of a block mapping up to its end. -/
def blockEntries : Nat → Input → Except DocumentFault (List (Node × Node) × Input)
  | 0, _ => .error .malformed
  | fuel + 1, i =>
    match i.lexemes with
    | .key :: rest => do
      let (k, i) ← orBlank true true afterKey fuel (i.goOn rest)
      let (v, i) ← valueOf true true afterKey fuel i
      let (es, i) ← blockEntries fuel i
      pure ((k, v) :: es, i)
    | .blockEnd :: rest => .ok ([], i.goOn rest)
    | _ => .error i.fault

/-- The items of a flow sequence up to its end. A comma must come before each but the first. -/
def flowItems : Nat → Bool → Input → Except DocumentFault (List Node × Input)
  | 0, _, _ => .error .malformed
  | fuel + 1, isFirst, i =>
    match isFirst, i.lexemes with
    | _, .closeSequence :: rest => .ok ([], i.goOn rest)
    | true, _ => flowItem fuel i
    | false, .comma :: rest => flowItem fuel (i.goOn rest)
    | false, _ => .error i.fault

/-- An item of a flow sequence and those behind it, or the end of the sequence. -/
def flowItem : Nat → Input → Except DocumentFault (List Node × Input)
  | 0, _ => .error .malformed
  | fuel + 1, i =>
    match i.lexemes with
    | .closeSequence :: rest => .ok ([], i.goOn rest)
    | .key :: rest => do
      let (n, i) ← (i.goOn rest).collect true (fun e => .mapping none [e]) fun i => do
        let without := [.comma, .closeSequence]
        let (k, i) ← orBlank false false (.value :: without) fuel i
        let (v, i) ← valueOf false false without fuel i
        pure ((k, v), i)
      let (ns, i) ← flowItems fuel false i
      pure (n :: ns, i)
    | _ => do
      let (n, i) ← read false false fuel i
      let (ns, i) ← flowItems fuel false i
      pure (n :: ns, i)

/-- The entries of a flow mapping up to its end. A comma must come before each but the first. -/
def flowEntries : Nat → Bool → Input → Except DocumentFault (List (Node × Node) × Input)
  | 0, _, _ => .error .malformed
  | fuel + 1, isFirst, i =>
    match isFirst, i.lexemes with
    | _, .closeMapping :: rest => .ok ([], i.goOn rest)
    | true, _ => flowEntry fuel i
    | false, .comma :: rest => flowEntry fuel (i.goOn rest)
    | false, _ => .error i.fault

/-- An entry of a flow mapping and those behind it, or the end of the mapping. -/
def flowEntry : Nat → Input → Except DocumentFault (List (Node × Node) × Input)
  | 0, _ => .error .malformed
  | fuel + 1, i =>
    match i.lexemes with
    | .closeMapping :: rest => .ok ([], i.goOn rest)
    | .key :: rest => do
      let without := [.comma, .closeMapping]
      let (k, i) ← orBlank false false (.value :: without) fuel (i.goOn rest)
      let (v, i) ← valueOf false false without fuel i
      let (es, i) ← flowEntries fuel false i
      pure ((k, v) :: es, i)
    | _ => do
      let (k, i) ← read false false fuel i
      let (es, i) ← flowEntries fuel false i
      pure ((k, blank) :: es, i)

end

end Reading

/-- The directives at the start of a document, taken in turn: whether the version has been given,
and the handles. -/
def directives (versioned : Bool) (handles : Handles) :
    List Lexeme → Except DocumentFault (Handles × List Lexeme)
  | .directive (.version major) :: rest =>
    if versioned || major != 1 then .error .malformed else directives true handles rest
  | .directive (.handle name start) :: rest =>
    if (handles.lookup name).isSome then .error .malformed
    else directives versioned (handles ++ [(name, start)]) rest
  | .directive .other :: rest => directives versioned handles rest
  | rest => .ok (handles ++ Handles.standard, rest)

/-- The node of a document whose start is marked, behind the directives. -/
def markedDocument (fuel : Nat) (handles : Handles) (lexemes : List Lexeme) :
    Except DocumentFault (Node × Input) :=
  match lexemes with
  | .documentStart :: rest =>
    let isBlank := match rest with
      | [] | .documentStart :: _ | .documentEnd :: _ | .directive _ :: _ => true
      | _ => false
    if isBlank then .ok (blank, .ofLexemes rest)
    else read handles true false fuel (.ofLexemes rest)
  | rest => .error (Input.ofLexemes rest).fault

/-- The document of lexemes; its node is the blank one if it is empty. -/
def graph (lexemes : List Lexeme) : Except DocumentFault Graph := do
  let fuel := 5 * lexemes.length + 5
  let (n, i) ← match lexemes with
    | [] => .ok (blank, .ofLexemes [])
    | .documentStart :: _ | .directive _ :: _ => do
      let (handles, rest) ← directives false [] lexemes
      markedDocument fuel handles rest
    | _ => read Handles.standard true false fuel (.ofLexemes lexemes)
  match i.lexemes.dropWhile (· == .documentEnd) with
  | [] => pure ⟨n, i.collections, i.ended⟩
  | rest => throw (i.goOn rest).fault

end Node
end Document
end TypeMismatch
