import TypeMismatch.Document.Block
import TypeMismatch.Text.Utf8

/-!
# Properties of nodes and directives

A node may be named by an anchor, and named again by an alias; it may be marked by a tag, which says
what it is. A tag is written in full between angle brackets, or by a handle and the rest of it; what
a handle stands for is said by a directive before the document. Some characters of a tag may be
written by the bytes of their encoding.

Source: `safe_load`, the parts that scan anchors, tags and directives.
-/

namespace TypeMismatch
namespace Document

/-- A tag as it is written: a handle, if it has one, and the rest. -/
structure Tag where
  handle : Option String
  suffix : String
deriving DecidableEq, Repr

/-- What is said before a document. -/
inductive Directive where
  /-- The major version of the format. -/
  | version (major : Nat)
  /-- What a handle stands for. -/
  | handle (name start : String)
  | other
deriving DecidableEq, Repr

/-- Whether a character can stand in the name of an anchor, of a handle or of a directive. -/
def isNameChar (c : Char) : Bool := c.isAlphanum || c == '-' || c == '_'

/-- A name, and the place behind it. -/
def scanName? (c : Cursor) : Option (String × Cursor) :=
  let name := c.rest.takeWhile isNameChar
  if name.isEmpty then none else some (String.ofList name, c.skip name.length)

/-- The name of an anchor or an alias behind its sign. -/
def scanAnchor? (c : Cursor) : Option (String × Cursor) := do
  let (name, c) ← scanName? c.next
  let closes (x : Char) := isSpacing x || ['?', ':', ',', ']', '\x7d', '%', '@', '\x60'].contains x
  if c.rest.isEmpty || c.sees closes then pure (name, c) else none

/-- Whether a character can stand for itself in a tag. -/
def isTagChar (c : Char) : Bool :=
  c.isAlphanum || "-;/?:@&=+$,_.!~*()[]\x27".toList.contains c

/-- The bytes that are written at the start of a text, and how many characters they take. -/
def escapedBytes? : List Char → Option (List UInt8)
  | '%' :: a :: b :: rest => do
    let a ← hexDigit? a
    let b ← hexDigit? b
    let bytes ← escapedBytes? rest
    pure ((16 * a + b).toUInt8 :: bytes)
  | '%' :: _ => none
  | _ => some []

/-- The characters of a tag. Every step takes at least one character, and `fuel` bounds their
number. -/
def tagChars? : Nat → Cursor → Option (List Char × Cursor)
  | 0, c => some ([], c)
  | fuel + 1, c =>
    match c.rest with
    | [] => some ([], c)
    | x :: _ =>
      if x = '%' then do
        let bytes ← escapedBytes? c.rest
        let text ← (Text.decodeUtf8 bytes).toOption
        let (more, c) ← tagChars? fuel (c.skip (3 * bytes.length))
        pure (text ++ more, c)
      else if isTagChar x then (tagChars? fuel c.next).map fun (more, c) => (x :: more, c)
      else some ([], c)

/-- The characters of a tag, of which there must be some. -/
def scanTagChars? (c : Cursor) : Option (String × Cursor) := do
  let (text, behind) ← tagChars? c.rest.length c
  if behind.index = c.index then none else pure (String.ofList text, behind)

/-- A handle: an exclamation mark, or a name between two. -/
def scanHandle? (c : Cursor) : Option (String × Cursor) :=
  match c.rest with
  | '!' :: rest =>
    if rest.head? == some ' ' then some ("!", c.next)
    else
      let name := rest.takeWhile isNameChar
      if rest[name.length]? == some '!' then
        some (String.ofList ('!' :: name ++ ['!']), c.skip (name.length + 2))
      else none
  | _ => none

/-- A tag from its exclamation mark on. -/
def scanTag? (c : Cursor) : Option (Tag × Cursor) := do
  let after := c.rest.drop 1
  let (tag, c) ←
    if after.head? == some '<' then do
      let (text, c) ← scanTagChars? (c.skip 2)
      if c.sees (· == '>') then pure (Tag.mk none text, c.next) else none
    else if atSpacing after then some (⟨none, "!"⟩, c.next)
    else do
      let word := after.takeWhile fun x => x != ' ' && !isBreak x
      let (handle, c) ← if word.contains '!' then scanHandle? c else some ("!", c.next)
      let (text, c) ← scanTagChars? c
      pure (⟨some handle, text⟩, c)
  if c.atLineSpace then pure (tag, c) else none

/-- A number of a version. -/
def scanVersionPart (c : Cursor) : Except DocumentFault (Nat × Cursor) :=
  let ds := c.rest.takeWhile fun x => '0' ≤ x && x ≤ '9'
  if ds.isEmpty then .error .malformed
  else if Text.maxDigits < ds.length then .error (.numeralTooLong ds.length)
  else .ok (Text.digitsValue ds, c.skip ds.length)

/-- The version of the format behind its name. -/
def scanVersion (c : Cursor) : Except DocumentFault (Directive × Cursor) := do
  let (major, c) ← scanVersionPart (c.skipWhile (· == ' '))
  if !c.sees (· == '.') then throw .malformed
  let (_, c) ← scanVersionPart c.next
  if c.atLineSpace then pure (.version major, c) else throw .malformed

/-- A handle and what it stands for, behind the name of the directive. -/
def scanHandleDirective? (c : Cursor) : Option (Directive × Cursor) := do
  let (name, c) ← scanHandle? (c.skipWhile (· == ' '))
  if !c.sees (· == ' ') then none
  let (start, c) ← scanTagChars? (c.skipWhile (· == ' '))
  if c.atLineSpace then pure (.handle name start, c) else none

/-- A directive from its sign on, and the place behind its line. -/
def scanDirective (c : Cursor) : Except DocumentFault (Directive × Cursor) := do
  match scanName? c.next with
  | none => throw .malformed
  | some (name, c) =>
    if !c.atLineSpace then throw .malformed
    let (directive, c) ←
      if name = "YAML" then scanVersion c
      else if name = "TAG" then
        match scanHandleDirective? c with
        | some r => pure r
        | none => throw .malformed
      else pure (.other, c.skipWhile (!isBreak ·))
    match c.endLine? with
    | some c => pure (directive, c)
    | none => throw .malformed

end Document
end TypeMismatch
