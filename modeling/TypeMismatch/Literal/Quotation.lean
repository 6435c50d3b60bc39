import TypeMismatch.Literal.Number
import TypeMismatch.Text.CharacterName
import TypeMismatch.Text.Point

/-!
# Quotations of literals

A quotation stands between two equal marks, an apostrophe or a double quote, or between two triples
of one; only in the latter may a line feed stand without a backslash before it. A backslash guards
the character after it, so that a mark behind one does not end the quotation, and begins an escape:

| escape | stands for |
| --- | --- |
| a line feed | nothing |
| a backslash, a mark | itself |
| `a b f n r t v` | the control characters 7, 8, 12, 10, 13, 9, 11 |
| one to three octal digits | the character, or the byte, of that code |
| `xNN` | the character, or the byte, of that code |
| `uNNNN`, `UNNNNNNNN` | the character of that code; in bytes, itself |
| `N` and a name between braces | the character of that name; in bytes, itself |
| anything else | itself, with the backslash |

In a raw quotation there are no escapes and every backslash stays. A quotation of bytes holds ASCII
characters only. A code may be that of half of a character, which then stands by itself, also where
the other half comes next.

A format holds fields between braces, each an expression with a conversion and a specification
behind it; in a specification there may be fields again. Outside of fields a brace is doubled.

Source: `literal_eval`, the quotations of its tokenizer and what their escapes stand for.
-/

namespace TypeMismatch
namespace Literal

/-- What letters before a quotation ask for. -/
structure QuotationKind where
  raw : Bool
  bytes : Bool
  format : Bool
deriving DecidableEq, Repr

/-- The kind of quotation that the letters before it ask for, in either case. -/
def quotationKind? (letters : List Char) : Option QuotationKind :=
  match letters.map Char.toLower with
  | [] | ['u'] => some ⟨false, false, false⟩
  | ['r'] => some ⟨true, false, false⟩
  | ['b'] => some ⟨false, true, false⟩
  | ['r', 'b'] | ['b', 'r'] => some ⟨true, true, false⟩
  | ['f'] => some ⟨false, false, true⟩
  | ['r', 'f'] | ['f', 'r'] => some ⟨true, false, true⟩
  | _ => none

/-- The text up to a lone mark, with its backslashes, and the rest behind the mark. -/
def untilMark (mark : Char) : List Char → Option (List Char × List Char)
  | [] => none
  | [c] => if c = mark then some ([], []) else none
  | c :: d :: cs =>
    if c = mark then some ([], d :: cs)
    else if c = '\n' then none
    else if c = Text.backslash then (untilMark mark cs).map fun (b, r) => (c :: d :: b, r)
    else (untilMark mark (d :: cs)).map fun (b, r) => (c :: b, r)

/-- The text up to three marks in a row, with its backslashes, and the rest behind them. -/
def untilMarks (mark : Char) : List Char → Option (List Char × List Char)
  | [] => none
  | [_] => none
  | [_, _] => none
  | c :: d :: e :: cs =>
    if c = mark && d = mark && e = mark then some ([], cs)
    else if c = Text.backslash then (untilMarks mark (e :: cs)).map fun (b, r) => (c :: d :: b, r)
    else (untilMarks mark (d :: e :: cs)).map fun (b, r) => (c :: b, r)

/-- The number of base-sixteen digits, all of which must be digits. -/
def hexNumber? (ds : List Char) : Option Nat :=
  if ds.all fun d => (digitInBase? 16 d).isSome then some (valueInBase 16 ds) else none

/-- The character that a one-letter escape stands for. -/
def letterEscape? (c : Char) : Option Nat :=
  if c = Text.backslash || c = Text.apostrophe || c = Text.doubleQuote then some c.toNat
  else if c = 'a' then some 7
  else if c = 'b' then some 8
  else if c = 'f' then some 12
  else if c = 'n' then some 10
  else if c = 'r' then some 13
  else if c = 't' then some 9
  else if c = 'v' then some 11
  else none

/-- The octal digits that an escape begins with, at most three. -/
def octalRun (cs : List Char) : List Char :=
  (cs.take 3).takeWhile fun c => (digitInBase? 8 c).isSome

/-- The digits that an escape by code needs after its letter. Two escapes stand for characters of
text only. -/
def codeWidth? (bytes : Bool) (c : Char) : Option Nat :=
  if c = 'x' then some 2
  else if bytes then none
  else if c = 'u' then some 4
  else if c = 'U' then some 8
  else none

/-- The code of the character that is named between braces, and the text behind them. -/
def namedCode? (s : List Char) : Option (Nat × List Char) :=
  match s with
  | '\x7b' :: s =>
    let name := s.takeWhile (· != '\x7d')
    if name.length = s.length then none
    else (Text.codeOfName? name).map fun n => (n, s.drop (name.length + 1))
  | _ => none

/-- The codes that a text with escapes stands for. Every step takes at least one character, and
`fuel` bounds the number of steps. -/
def unescape (bytes : Bool) : Nat → List Char → Option (List Nat)
  | 0, _ => some []
  | _ + 1, [] => some []
  | fuel + 1, c :: cs =>
    if c != Text.backslash then (unescape bytes fuel cs).map (c.toNat :: ·)
    else
      match cs with
      | [] => none
      | d :: rest =>
        let octal := octalRun cs
        if d = '\n' then unescape bytes fuel rest
        else if !octal.isEmpty then
          (unescape bytes fuel (cs.drop octal.length)).map (valueInBase 8 octal :: ·)
        else if !bytes && d = 'N' then
          match namedCode? rest with
          | some (n, rest) => (unescape bytes fuel rest).map (n :: ·)
          | none => none
        else
          match letterEscape? d, codeWidth? bytes d with
          | some n, _ => (unescape bytes fuel rest).map (n :: ·)
          | none, some width =>
            if rest.length < width then none
            else
              match hexNumber? (rest.take width) with
              | some n => (unescape bytes fuel (rest.drop width)).map (n :: ·)
              | none => none
          | none, none => (unescape bytes fuel cs).map (c.toNat :: ·)

/-- What a quotation stands for: text, bytes, or a format with the expressions of its fields. -/
inductive Quotation where
  | text (s : List Text.Point)
  | bytes (bs : List UInt8)
  | format (fields : List (List Char))
deriving Repr

/-- The value of a quotation's inside that is no format. -/
def plainQuotation? (kind : QuotationKind) (inside : List Char) : Option Quotation := do
  if kind.bytes && inside.any (0x80 ≤ ·.toNat) then none
  let codes ← if kind.raw then some (inside.map Char.toNat)
    else unescape kind.bytes inside.length inside
  if kind.bytes then some (.bytes (codes.map Nat.toUInt8))
  else (codes.mapM Text.Point.ofCode?).map .text

/-- Whether every escape in a text can be read, and stands for a code point. -/
def isEscaped (s : List Char) : Bool :=
  (unescape false (s.length + 1) s).any fun codes =>
    codes.all fun n => (Text.Point.ofCode? n).isSome

/-- Whether the text around the fields of a format can be read. A backslash may end it. -/
def isFormatText (raw : Bool) (s : List Char) : Bool :=
  raw || isEscaped s || (s.getLast? == some Text.backslash && isEscaped s.dropLast)

/-- The text of a format up to a brace that belongs to a field, and the rest from the brace on. At
the outer level a doubled brace stands for itself. -/
def formatText? (raw outer : Bool) : Nat → List Char → Option (List Char × List Char)
  | 0, s => some ([], s)
  | _ + 1, [] => some ([], [])
  | fuel + 1, c :: s =>
    let also (text rest : List Char) :=
      (formatText? raw outer fuel rest).map fun (more, rest) => (text ++ more, rest)
    if !raw && c = Text.backslash then
      match s with
      | 'N' :: '\x7b' :: rest =>
        let name := rest.takeWhile (· != '\x7d')
        also (c :: 'N' :: '\x7b' :: name ++ (rest.drop name.length).take 1)
          (rest.drop (name.length + 1))
      | d :: rest => if d = '\x7b' || d = '\x7d' then also [c] s else also [c, d] rest
      | [] => some ([c], [])
    else if c = '\x7b' || c = '\x7d' then
      if !outer then some ([], c :: s)
      else if s.head? == some c then also [c] (s.drop 1)
      else if c = '\x7b' then some ([], c :: s)
      else none
    else also [c] s

/-- A bracket with the one that closes it. -/
def closingOf? (c : Char) : Option Char := [('(', ')'), ('[', ']'), ('\x7b', '\x7d')].lookup c

/-- The expression of a field, given the brackets that are open and the quotation mark, with how
often it stands, that is; and the rest behind it. Neither a backslash nor a comment may stand in it.
Every step takes at least one character, and `fuel` bounds their number. -/
def fieldExpression? : Nat → List Char → Option (Char × Bool) → List Char →
    Option (List Char × List Char)
  | 0, _, _, _ => none
  | _ + 1, _, _, [] => none
  | fuel + 1, brackets, mark, c :: s =>
    let also (n : Nat) (brackets : List Char) (mark : Option (Char × Bool)) :=
      (fieldExpression? fuel brackets mark ((c :: s).drop n)).map fun (more, rest) =>
        ((c :: s).take n ++ more, rest)
    let isTriple := s.take 2 == [c, c]
    if c = Text.backslash then none
    else
      match mark with
      | some (m, triple) =>
        if c != m then also 1 brackets mark
        else if !triple then also 1 brackets none
        else if isTriple then also 3 brackets none
        else also 1 brackets mark
      | none =>
        if c = Text.apostrophe || c = Text.doubleQuote then
          also (if isTriple then 3 else 1) brackets (some (c, isTriple))
        else if c = '#' then none
        else
          match closingOf? c with
          | some closing => also 1 (closing :: brackets) none
          | none =>
            let isEnd := ['!', ':', '\x7d', '=', '<', '>'].contains c
            if brackets.isEmpty && isEnd then
              if ['!', '=', '<', '>'].contains c && s.head? == some '=' then also 2 brackets none
              else if c = '<' || c = '>' then also 1 brackets none
              else some ([], c :: s)
            else if c = ')' || c = ']' || c = '\x7d' then
              if brackets.head? == some c then also 1 (brackets.drop 1) none else none
            else also 1 brackets none

/-- The rest behind the mark that asks for a field's own text, and the blanks behind it. -/
def behindEquals (s : List Char) : List Char :=
  match s with
  | '=' :: rest => rest.dropWhile fun c => c == ' ' || (0x9 ≤ c.toNat && c.toNat ≤ 0xD)
  | s => s

/-- The rest behind a conversion, of which there are three. -/
def behindConversion? (s : List Char) : Option (List Char) :=
  match s with
  | '!' :: c :: rest =>
    if ['s', 'r', 'a'].contains c && rest.head?.any [':', '\x7d'].contains then some rest else none
  | '!' :: [] => none
  | s => some s

/-- The expressions of the fields of a format, and the rest from the brace on that ends it. The
level is zero outside of fields, and there are fields at two levels. Every step takes at least one
character, and `fuel` bounds their number. -/
def formatFields? (raw : Bool) (level : Nat) : Nat → List Char →
    Option (List (List Char) × List Char)
  | 0, _ => none
  | fuel + 1, s => do
    let (text, rest) ← formatText? raw (level == 0) s.length s
    if !isFormatText raw text then none
    match rest with
    | '\x7b' :: rest =>
      if 2 ≤ level then none
      let (expression, rest) ← fieldExpression? (rest.length + 1) [] none rest
      if expression.all fun c => [' ', '\t', '\n', '\x0c'].contains c then none
      let rest ← behindConversion? (behindEquals rest)
      let (inner, rest) ← match rest with
        | ':' :: rest => formatFields? raw (level + 1) fuel rest
        | rest => some ([], rest)
      match rest with
      | '\x7d' :: rest =>
        let (more, rest) ← formatFields? raw level fuel rest
        some (expression :: inner ++ more, rest)
      | _ => none
    | rest => some ([], rest)

/-- A quotation that begins with a mark. -/
def quotation? (kind : QuotationKind) (cs : List Char) : Option (Quotation × List Char) := do
  let (inside, rest) ← match cs with
    | c :: d :: e :: r =>
      if c = d && d = e then untilMarks c r else untilMark c (d :: e :: r)
    | c :: r => untilMark c r
    | [] => none
  if kind.format then
    match formatFields? kind.raw 0 (inside.length + 1) inside with
    | some (fields, []) => some (.format fields, rest)
    | _ => none
  else do
    let q ← plainQuotation? kind inside
    some (q, rest)

/-- Two quotations side by side are one. Text and bytes do not join. -/
def join? : Quotation → Quotation → Option Quotation
  | .text a, .text b => some (.text (a ++ b))
  | .bytes a, .bytes b => some (.bytes (a ++ b))
  | .format a, .format b => some (.format (a ++ b))
  | .format a, .text _ => some (.format a)
  | .text _, .format b => some (.format b)
  | _, _ => none

end Literal
end TypeMismatch
