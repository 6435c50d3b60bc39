import TypeMismatch.Document.Cursor
import TypeMismatch.Document.Fault

/-!
# The text of scalars

A scalar stands plain or between quotation marks, and may go over several lines. Between two lines
the spaces around the break are dropped; one break becomes a space, and of several breaks the first
one is dropped. A line that begins with a document mark ends a plain scalar and is refused within
quotation marks.

A plain scalar ends before a comment, before a colon with spacing behind it, at a tab, and before a
line that is not indented deeply enough; within flow collections it also ends before a bracket, a
brace, a comma or a question mark. Between apostrophes, two apostrophes stand for one. Between
double quotes, a backslash begins an escape, and a backslash at the end of a line joins the lines.

Source: `safe_load`, the parts that scan plain and quoted scalars.
-/

namespace TypeMismatch
namespace Document

/-- Whether a character ends a plain scalar within a flow collection. -/
def endsFlowPlain (c : Char) : Bool := [',', '?', '[', ']', '\x7b', '\x7d'].contains c

/-- Whether a colon with this text behind it ends a plain scalar. -/
def endsAtColon (flow : Bool) (after : List Char) : Bool :=
  atSpacing after || (flow && after.head?.any [',', '[', ']', '\x7b', '\x7d'].contains)

/-- The part of a plain scalar up to the next spacing or end. -/
def plainWord (flow : Bool) : List Char → List Char
  | [] => []
  | c :: cs =>
    if isSpacing c || (c = ':' && endsAtColon flow cs) || (flow && endsFlowPlain c) then []
    else c :: plainWord flow cs

/-- What a break and further breaks behind it become. -/
def foldBreaks (first : Char) (more : List Char) : List Char :=
  if breakChar first != '\n' then breakChar first :: more
  else if more.isEmpty then [' ']
  else more

/-- The breaks on the lines behind a break, with the place behind them and their indentation, or
nothing before a document mark. Every step takes at least one character, and `fuel` bounds their
number. -/
def plainBreaks : Nat → Cursor → Option (List Char) × Cursor
  | 0, c => (some [], c)
  | fuel + 1, c =>
    match c.rest with
    | [] => (some [], c)
    | x :: _ =>
      if x = ' ' then plainBreaks fuel c.next
      else if isBreak x then
        if atDocumentMark c.next.rest then (none, c.next)
        else
          let (more, c) := plainBreaks fuel c.next
          (more.map (breakChar x :: ·), c)
      else (some [], c)

/-- The spacing behind a word of a plain scalar, as it counts if another word follows; nothing if
none can follow. -/
structure PlainGap where
  text : List Char
  after : Cursor
  broken : Bool

/-- The spacing behind a word of a plain scalar. -/
def plainGap (c : Cursor) : PlainGap :=
  let spaces := c.rest.takeWhile (· == ' ')
  let c := c.skip spaces.length
  match c.rest with
  | [] => ⟨spaces, c, false⟩
  | x :: _ =>
    if isBreak x then
      let c := c.next
      if atDocumentMark c.rest then ⟨[], c, true⟩
      else
        match plainBreaks c.rest.length c with
        | (some more, c) => ⟨foldBreaks x more, c, true⟩
        | (none, c) => ⟨[], c, true⟩
    else ⟨spaces, c, false⟩

/-- A scalar that has been read: its text, the place behind it, and whether a line break stands
between it and that place. -/
structure Scanned where
  text : List Char
  after : Cursor
  broken : Bool

/-- The rest of a plain scalar from a word on, with the spacing before the word. Every step takes at
least one character, and `fuel` bounds the number of steps. -/
def plainFrom (flow : Bool) (indent : Int) : Nat → List Char → Bool → Cursor → Scanned
  | 0, _, broken, c => ⟨[], c, broken⟩
  | fuel + 1, spacing, broken, c =>
    let word := plainWord flow c.rest
    if c.sees (· == '#') || word.isEmpty then ⟨[], c, broken⟩
    else
      let gap := plainGap (c.skip word.length)
      let text := spacing ++ word
      if gap.text.isEmpty || gap.after.sees (· == '#')
          || (!flow && decide ((gap.after.column : Int) < indent)) then
        ⟨text, gap.after, gap.broken⟩
      else
        let rest := plainFrom flow indent fuel gap.text gap.broken gap.after
        ⟨text ++ rest.text, rest.after, rest.broken⟩

/-- A plain scalar; its further lines are indented at least to the given column. -/
def scanPlain (flow : Bool) (indent : Int) (c : Cursor) : Scanned :=
  plainFrom flow indent (c.rest.length + 1) [] false c

/-- Whether a character can stand for itself between quotation marks, whichever they are. -/
def isQuotedChar (c : Char) : Bool :=
  c != '\x27' && c != '\x22' && c != '\x5c' && !isSpacing c

/-- The character that an escape of one character stands for. -/
def escapeChar? (c : Char) : Option Char :=
  [('0', '\x00'), ('a', '\x07'), ('b', '\x08'), ('t', '\t'), ('\t', '\t'), ('n', '\n'),
   ('v', '\x0b'), ('f', '\x0c'), ('r', '\r'), ('e', '\x1b'), (' ', ' '), ('\x22', '\x22'),
   ('\x5c', '\x5c'), ('/', '/'), ('N', '\u0085'), ('_', '\u00A0'), ('L', '\u2028'),
   ('P', '\u2029')].lookup c

/-- How many digits of base sixteen follow the letter of an escape. -/
def escapeWidth? (c : Char) : Option Nat := [('x', 2), ('u', 4), ('U', 8)].lookup c

/-- The value of a digit of base sixteen. -/
def hexDigit? (c : Char) : Option Nat :=
  if '0' ≤ c && c ≤ '9' then some (c.toNat - 0x30)
  else if 'a' ≤ c && c ≤ 'f' then some (c.toNat - 0x57)
  else if 'A' ≤ c && c ≤ 'F' then some (c.toNat - 0x37)
  else none

/-- The code point whose code is written with digits of base sixteen. -/
def codePoint (digits : List Char) : Except DocumentFault Text.Point :=
  match digits.mapM hexDigit? with
  | none => .error .malformed
  | some ds =>
    let n := ds.foldl (fun n d => 16 * n + d) 0
    match Text.Point.ofCode? n with
    | some p => .ok p
    | none => .error (if 0x7FFFFFFF < n then .codeTooLong else .codeTooLarge)

/-- The breaks on the lines behind a break within quotation marks, with the place behind them and
the spaces and tabs of the last line. A document mark at the start of a line is refused. -/
def quotedBreaks : Nat → Cursor → Except DocumentFault (List Char × Cursor)
  | 0, _ => .error .malformed
  | fuel + 1, c =>
    if atDocumentMark c.rest then .error .malformed
    else
      let c := c.skipWhile fun x => x == ' ' || x == '\t'
      match c.rest with
      | x :: _ =>
        if isBreak x then (quotedBreaks fuel c.next).map fun (more, c) => (breakChar x :: more, c)
        else .ok ([], c)
      | [] => .ok ([], c)

/-- The text up to the closing quotation mark, and the place behind it. Every step takes at least
one character, and `fuel` bounds the number of steps. -/
def quotedFrom (mark : Char) : Nat → Cursor → Except DocumentFault (List Text.Point × Cursor)
  | 0, _ => .error .malformed
  | fuel + 1, c =>
    match c.rest with
    | [] => .error .malformed
    | x :: after =>
      let alsoPoint (p : Text.Point) (c : Cursor) :=
        (quotedFrom mark fuel c).map fun (more, c) => (p :: more, c)
      let also (text : List Char) (c : Cursor) :=
        (quotedFrom mark fuel c).map fun (more, c) => (Text.pointsOf text ++ more, c)
      if isQuotedChar x then also [x] c.next
      else if x = mark then
        if mark = '\x27' && after.head? == some mark then also [mark] (c.skip 2)
        else .ok ([], c.next)
      else if x = '\x5c' && mark = '\x22' then
        match after with
        | [] => .error .malformed
        | y :: digits =>
          match escapeChar? y, escapeWidth? y with
          | some e, _ => also [e] (c.skip 2)
          | none, some width =>
            if digits.length < width then .error .malformed
            else do
              let p ← codePoint (digits.take width)
              alsoPoint p (c.skip (2 + width))
          | none, none =>
            if isBreak y then do
              let (breaks, c) ← quotedBreaks (digits.length + 2) (c.skip 2)
              also breaks c
            else .error .malformed
      else if x = '\x27' || x = '\x22' || x = '\x5c' then also [x] c.next
      else
        let spaces := c.rest.takeWhile fun y => y == ' ' || y == '\t'
        let c := c.skip spaces.length
        match c.rest with
        | [] => .error .malformed
        | y :: _ =>
          if isBreak y then do
            let (more, c) ← quotedBreaks (c.rest.length + 2) c.next
            also (foldBreaks y more) c
          else also spaces c

/-- A scalar between quotation marks, from the opening mark on. -/
def scanQuoted (mark : Char) (c : Cursor) : Except DocumentFault (List Text.Point × Cursor) :=
  quotedFrom mark (c.rest.length + 1) c.next

end Document
end TypeMismatch
