import TypeMismatch.Document.Property

/-!
# Lexemes of a document

A document is written as nested blocks, told apart by indentation, and as flow collections in
brackets and braces. As lexemes, both have explicit starts and ends: a block begins where a dash or
a key stands deeper than the block around it, and ends where a line begins less deep.

What is a key shows only at the colon behind it. So every place where a key could begin is kept as a
candidate, one for each level of flow collections, until the colon comes, its line ends, or more
than 1024 characters follow; the lexemes for a key are then put in at that place. In a block, a
candidate in the column of the block must turn out to be a key.

A text that breaks the rules of the format has no lexemes. An escape or a version that promises a
number it does not have is a lexeme itself, since what comes before may be faulty in another way;
it stands where the first candidate is that is still open, as no lexeme behind that one is certain.

Source: `safe_load`, the part that scans a text for tokens.
-/

namespace TypeMismatch
namespace Document

/-- A lexeme of a document. -/
inductive Lexeme where
  | documentStart
  | documentEnd
  | blockSequence
  | blockMapping
  | blockEnd
  | entry
  | key
  | value
  | openSequence
  | openMapping
  | closeSequence
  | closeMapping
  | comma
  | scalar (plain : Bool) (text : List Text.Point)
  | anchor (name : String)
  | alias (name : String)
  | tag (t : Tag)
  | directive (d : Directive)
  | fault (f : DocumentFault)
deriving DecidableEq, Repr

/-- A place where a key could begin: the number of lexemes before it, whether it must be a key, and
where it stands. -/
structure Candidate where
  place : Nat
  required : Bool
  start : Cursor

/-- How far a document has been read: the place, the number of flow collections that are open, the
column of the block and of the blocks around it, whether a key may begin, the candidates for keys by
flow level, and the lexemes so far, the last one first. -/
structure Scan where
  cursor : Cursor
  flow : Nat
  indent : Int
  outer : List Int
  keyAllowed : Bool
  candidates : List (Nat × Candidate)
  found : List Lexeme

namespace Scan

/-- The start of a document. -/
def start (text : List Char) : Scan := ⟨.start text, 0, -1, [], true, [], []⟩

/-- One more lexeme. -/
def emit (s : Scan) (x : Lexeme) : Scan := { s with found := x :: s.found }

/-- A lexeme put in so that `place` lexemes come before it. -/
def insertAt (s : Scan) (place : Nat) (x : Lexeme) : Scan :=
  let n := s.found.length - place
  { s with found := s.found.take n ++ x :: s.found.drop n }

/-- The lexeme of one character. -/
def emitChar (s : Scan) (x : Lexeme) : Scan := { s.emit x with cursor := s.cursor.next }

/-- The place of the next word. Behind a line break in a block a key may begin. -/
def skipGap (s : Scan) : Scan :=
  let (c, broken) := s.cursor.skipGap (s.cursor.rest.length + 1) false
  { s with cursor := c, keyAllowed := s.keyAllowed || (broken && s.flow == 0) }

/-- Whether a candidate is too far back to be a key. -/
def isStale (s : Scan) (k : Candidate) : Bool :=
  k.start.line != s.cursor.line || 1024 < s.cursor.index - k.start.index

/-- Drops the candidates that are too far back. -/
def dropStale (s : Scan) : Option Scan :=
  if s.candidates.any fun k => s.isStale k.2 && k.2.required then none
  else some { s with candidates := s.candidates.filter fun k => !s.isStale k.2 }

/-- Drops the candidate of the current flow level. -/
def dropCandidate (s : Scan) : Option Scan :=
  match s.candidates.lookup s.flow with
  | some k =>
    if k.required then none
    else some { s with candidates := s.candidates.filter (·.1 != s.flow) }
  | none => some s

/-- Keeps the current place as a candidate, if a key may begin here. -/
def saveCandidate (s : Scan) : Option Scan :=
  if s.keyAllowed then do
    let required := s.flow == 0 && s.indent == (s.cursor.column : Int)
    let s ← s.dropCandidate
    pure { s with candidates := (s.flow, ⟨s.found.length, required, s.cursor⟩) :: s.candidates }
  else some s

/-- Ends the blocks that are deeper than a column. -/
def closeBlocks (s : Scan) (column : Int) : Scan :=
  if s.flow != 0 then s
  else
    let deeper := (s.indent :: s.outer).takeWhile (column < ·)
    match (s.indent :: s.outer).drop deeper.length with
    | indent :: outer =>
      { s with
        indent := indent
        outer := outer
        found := List.replicate deeper.length .blockEnd ++ s.found }
    | [] => s

/-- Begins a block at a column, if it is deeper than the current one, at a place among the lexemes.
-/
def openBlock (s : Scan) (column : Int) (place : Nat) (x : Lexeme) : Scan :=
  if s.indent < column then
    { s.insertAt place x with indent := column, outer := s.indent :: s.outer }
  else s

/-- The mark of the start or the end of a document. -/
def documentMark (s : Scan) (x : Lexeme) : Option Scan := do
  let s ← (s.closeBlocks (-1)).dropCandidate
  pure { s.emit x with keyAllowed := false, cursor := s.cursor.skip 3 }

/-- The start of a flow collection. -/
def openFlow (s : Scan) (x : Lexeme) : Option Scan := do
  let s ← s.saveCandidate
  pure { s.emitChar x with flow := s.flow + 1, keyAllowed := true }

/-- The end of a flow collection. -/
def closeFlow (s : Scan) (x : Lexeme) : Option Scan := do
  let s ← s.dropCandidate
  pure { s.emitChar x with flow := s.flow - 1, keyAllowed := false }

/-- A comma between the entries of a flow collection. -/
def flowComma (s : Scan) : Option Scan := do
  let s ← s.dropCandidate
  pure { s.emitChar .comma with keyAllowed := true }

/-- The dash before an entry of a block sequence. -/
def dash (s : Scan) : Option Scan := do
  if s.flow == 0 && !s.keyAllowed then none
  let s := if s.flow == 0 then s.openBlock s.cursor.column s.found.length .blockSequence else s
  let s ← s.dropCandidate
  pure { s.emitChar .entry with keyAllowed := true }

/-- The question mark before a key. -/
def questionMark (s : Scan) : Option Scan := do
  if s.flow == 0 && !s.keyAllowed then none
  let s := if s.flow == 0 then s.openBlock s.cursor.column s.found.length .blockMapping else s
  let s ← s.dropCandidate
  pure { s.emitChar .key with keyAllowed := s.flow == 0 }

/-- The colon behind a key. -/
def colon (s : Scan) : Option Scan :=
  match s.candidates.lookup s.flow with
  | some k =>
    let s := { s with candidates := s.candidates.filter (·.1 != s.flow) }
    let s := s.insertAt k.place .key
    let s := if s.flow == 0 then s.openBlock k.start.column k.place .blockMapping else s
    some { s.emitChar .value with keyAllowed := false }
  | none =>
    if s.flow == 0 && !s.keyAllowed then none
    else
      let s := if s.flow == 0 then s.openBlock s.cursor.column s.found.length .blockMapping else s
      some { s.emitChar .value with keyAllowed := s.flow == 0 }

/-- A scalar between quotation marks. -/
def quoted (s : Scan) (mark : Char) : Except DocumentFault Scan :=
  match s.saveCandidate with
  | none => .error .malformed
  | some s => do
    let (text, c) ← scanQuoted mark s.cursor
    pure { s.emit (.scalar false text) with keyAllowed := false, cursor := c }

/-- A plain scalar. -/
def plain (s : Scan) : Option Scan := do
  let s ← s.saveCandidate
  let r := scanPlain (s.flow != 0) (s.indent + 1) s.cursor
  pure { s.emit (.scalar true (Text.pointsOf r.text)) with
    keyAllowed := r.broken, cursor := r.after }

/-- A block scalar. -/
def block (s : Scan) (folded : Bool) : Option Scan := do
  let s ← s.dropCandidate
  let (text, c) ← scanBlock? folded s.indent s.cursor
  pure { s.emit (.scalar false (Text.pointsOf text)) with keyAllowed := true, cursor := c }

/-- A property of a node, or an alias, as it is read by a function. -/
def property {α : Type} (s : Scan) (scan : Cursor → Option (α × Cursor)) (x : α → Lexeme) :
    Option Scan := do
  let s ← s.saveCandidate
  let (a, c) ← scan s.cursor
  pure { s.emit (x a) with keyAllowed := false, cursor := c }

/-- A directive. -/
def directive (s : Scan) : Except DocumentFault Scan :=
  match (s.closeBlocks (-1)).dropCandidate with
  | none => .error .malformed
  | some s => do
    let (d, c) ← scanDirective s.cursor
    pure { s.emit (.directive d) with keyAllowed := false, cursor := c }

/-- Characters with a meaning of their own at the start of a word. -/
def indicators : List Char :=
  ['-', '?', ':', ',', '[', ']', '\x7b', '\x7d', '#', '&', '*', '!', '|', '>', '\x27', '\x22',
   '%', '@', '\x60']

/-- Whether a plain scalar can begin with a character, given the text behind it. -/
def beginsPlain (s : Scan) (c : Char) (after : List Char) : Bool :=
  !(isSpacing c || indicators.contains c)
    || (!atSpacing after && (c == '-' || (s.flow == 0 && (c == '?' || c == ':'))))

/-- The lexeme that begins with a character, given the text behind it, where nothing but a breach
of the rules can be wrong with it. -/
def word? (s : Scan) (c : Char) (after : List Char) : Option Scan :=
  if s.cursor.column == 0 && atWord ['-', '-', '-'] (c :: after) then
    s.documentMark .documentStart
  else if s.cursor.column == 0 && atWord ['.', '.', '.'] (c :: after) then
    s.documentMark .documentEnd
  else if c == '[' then s.openFlow .openSequence
  else if c == '\x7b' then s.openFlow .openMapping
  else if c == ']' then s.closeFlow .closeSequence
  else if c == '\x7d' then s.closeFlow .closeMapping
  else if c == ',' then s.flowComma
  else if c == '-' && atSpacing after then s.dash
  else if c == '?' && (s.flow != 0 || atSpacing after) then s.questionMark
  else if c == ':' && (s.flow != 0 || atSpacing after) then s.colon
  else if c == '*' then s.property scanAnchor? .alias
  else if c == '&' then s.property scanAnchor? .anchor
  else if c == '!' then s.property scanTag? .tag
  else if (c == '|' || c == '>') && s.flow == 0 then s.block (c == '>')
  else if s.beginsPlain c after then s.plain
  else none

/-- The lexeme that begins with a character, given the text behind it. -/
def word (s : Scan) (c : Char) (after : List Char) : Except DocumentFault Scan :=
  if s.cursor.column == 0 && c == '%' then s.directive
  else if c == '\x27' || c == '\x22' then s.quoted c
  else
    match s.word? c after with
    | some s => .ok s
    | none => .error .malformed

/-- The lexemes that are certain, where the next one has a fault, and the fault. -/
def endWith (s : Scan) (f : DocumentFault) : List Lexeme :=
  let pending := (s.candidates.filter fun k => !s.isStale k.2).map (·.2.place)
  s.found.reverse.take (pending.foldl min s.found.length) ++ [.fault f]

/-- The lexemes from a place on. Every step takes at least one character, and `fuel` bounds the
number of steps. -/
def lexemes? : Nat → Scan → Option (List Lexeme)
  | 0, _ => none
  | fuel + 1, s => do
    let t ← s.skipGap.dropStale
    let t := t.closeBlocks t.cursor.column
    match t.cursor.rest with
    | [] => do
      let t ← (t.closeBlocks (-1)).dropCandidate
      pure t.found.reverse
    | c :: after =>
      match t.word c after with
      | .ok t => lexemes? fuel t
      | .error .malformed => none
      | .error f => some (s.endWith f)

end Scan

/-- The lexemes of a document. -/
def lexemes? (text : List Char) : Option (List Lexeme) :=
  if text.all isDocumentChar then (Scan.start text).lexemes? (text.length + 1) else none

end Document
end TypeMismatch
